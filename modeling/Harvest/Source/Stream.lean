import Harvest.Source.Token

/-!
Token streams: reading tokens one at a time, with the possibility to put tokens back.
-/

namespace Harvest.Source

/-- The tokens still to be read. Tokens that were put back come first, the last one put back before
the others. `complete` tells that the last token read was the end of the source. -/
structure Stream where
  queue : List Token
  fault : Option ScanFault
  pushed : List Token := []
  complete : Bool := false
deriving DecidableEq, Repr

inductive StreamEnd where
  | finished
  | fault (fault : ScanFault)
deriving DecidableEq, Repr

namespace Stream

def ofScan (s : Scan) : Stream := ⟨s.tokens, s.fault, [], false⟩

def push (s : Stream) (t : Token) : Stream := { s with pushed := t :: s.pushed, complete := false }

/-- The next token. A fault is reported once; after it the source has ended. -/
def next (s : Stream) : Except StreamEnd Token × Stream :=
  if s.complete then (.error .finished, s)
  else
    match s.pushed, s.queue with
    | t :: pushed, _ => (.ok t, { s with pushed, complete := t.kind == .finish })
    | [], t :: queue => (.ok t, { s with queue, complete := t.kind == .finish })
    | [], [] =>
        match s.fault with
        | some fault => (.error (.fault fault), { s with fault := none })
        | none => (.error .finished, s)

def peek (s : Stream) : Except StreamEnd Token × Stream :=
  match s.next with
  | (.ok t, s') => (.ok t, s'.push t)
  | (.error stop, s') => (.error stop, s')

def restFrom : Nat → Stream → (List Token × Option ScanFault) × Stream
  | 0, s => (([], none), s)
  | fuel + 1, s =>
      match s.next with
      | (.ok t, s') =>
          let ((tokens, fault), s'') := restFrom fuel s'
          ((t :: tokens, fault), s'')
      | (.error .finished, s') => (([], none), s')
      | (.error (.fault fault), s') => (([], some fault), s')

def rest (s : Stream) : (List Token × Option ScanFault) × Stream :=
  restFrom (s.pushed.length + s.queue.length + 1) s

end Stream

end Harvest.Source
