import Harvest.Catalog.Read
import Harvest.CommandLine
import Harvest.Settings.Basic
import Harvest.Source.Literal
import Harvest.Source.Token
import Harvest.Text.Integer
import Harvest.Text.Utf8

/-!
The ways in which the work ends without a result.
-/

namespace Harvest

inductive Failure where
  | exit (code : Nat)
  | undecodable (fault : Text.Utf8Fault)
  | badDedent
  | literal (fault : Source.LiteralFault)
  | mixedStrings
  | onlyNamed
  | noText
  | unusableCall
  | noArguments
  | untoldDomain
  | notClass
  | notExtractor
  | undocumented
  | emptyDocumentation
  | reservedOption
  | settings (source : String) (fault : Settings.Fault)
  | hyphensInComment
  | unexpectedEndTag (tag : String)
  | namelessTag
  | unknownPrefix
  | badReference (fault : Text.IntegerFault)
  | referenceRange
  | referenceSize
  | badDefine (part : String)
  | unknownEncoding (name : String)
  | multibyteEncoding
  | usage (fault : CommandLine.Fault)
  | incomparable
  | unsortable
  | badLine (fault : Text.IntegerFault)
  | unwritable (fault : Catalog.RenderFault)
  | malformedCatalog (fault : Catalog.ReadFault)
  | missingFile
  | notDirectory
  | isDirectory
deriving DecidableEq, Repr

def Source.LiteralFault.message? : Source.LiteralFault → Option String
  | .unpacked => some "malformed node or string: None"
  | .nullCharacter => some "source code string cannot contain null bytes"
  | _ => none

def Failure.message? : Failure → Option String
  | .undecodable fault => some fault.message
  | .literal fault => fault.message?
  | .notExtractor => some "Registered extractor must derive from ``Extractor``"
  | .settings source fault => some (fault.message source)
  | .hyphensInComment => some "The string '--' is not allowed in a comment."
  | .unexpectedEndTag _ => some "Unexpected end tag."
  | .badReference fault => some fault.message
  | .referenceRange => some "chr() arg not in range(0x110000)"
  | .referenceSize => some "Python int too large to convert to C int"
  | .badDefine _ => some "Invalid define syntax"
  | .unknownEncoding name => some ("unknown encoding: " ++ name)
  | .multibyteEncoding => some "multi-byte encodings are not supported"
  | .usage fault => some fault.message
  | .badLine fault => some fault.message
  | .unwritable fault => fault.message?
  | .malformedCatalog fault => some fault.message
  | _ => none

def Failure.token? : Failure → Option String
  | .hyphensInComment => some "--"
  | .unexpectedEndTag tag => some tag
  | .badDefine part => some part
  | _ => none

end Harvest
