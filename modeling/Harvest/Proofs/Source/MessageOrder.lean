import Harvest.Proofs.Source.ReaderRuns

/-!
# The order of messages

A message stands on the row of the name of its call, but it is found only where the call is closed.
Main statement: after every token the messages found so far are in the order of their lines, none
before the first row and none behind the token.
-/

namespace Harvest.Source.Reader

variable {g : Reading} {r r' : Reader} {t : Token} {row : Nat}

/-- A reader that has come to this row: its messages are in order, and none is behind the call that
is being read. -/
structure Ordered (g : Reading) (row : Nat) (r : Reader) : Prop where
  start : 1 ≤ row
  rising : r.places.Pairwise (·.line ≤ ·.line)
  within : ∀ place ∈ r.places, g.firstLine + 1 ≤ place.line ∧ place.line ≤ g.firstLine + row
  head : ∀ k, r.phase.row? = some k → 1 ≤ k ∧ k ≤ row ∧
    ∀ place ∈ r.places, place.line ≤ g.firstLine + k

theorem Ordered.mono {later : Nat} (h : Ordered g row r) (hrow : row ≤ later) :
    Ordered g later r := by
  refine ⟨Nat.le_trans h.start hrow, h.rising, fun place hplace => ?_, fun k hk => ?_⟩
  · have := h.within place hplace
    omega
  · obtain ⟨hone, hle, hbefore⟩ := h.head k hk
    exact ⟨hone, Nat.le_trans hle hrow, hbefore⟩

/-- One token on the same row or a later one keeps the messages in order. -/
theorem Ordered.step (h : Ordered g row r) (hrow : row ≤ t.row) (hstep : r.step g t = .ok r') :
    Ordered g t.row r' := by
  have hhere := h.mono hrow
  rcases step_places hstep with ⟨hplaces, hhead, -⟩ | ⟨k, hk, hidle, hplaces⟩
  · refine ⟨hhere.start, hplaces ▸ h.rising, hplaces ▸ hhere.within, fun k hk => ?_⟩
    rw [hplaces]
    rcases hhead k hk with hsame | rfl
    · exact hhere.head k hsame
    · -- A call begins here, and all messages are on this row or above it.
      exact ⟨hhere.start, Nat.le_refl _, fun place hplace => (hhere.within place hplace).2⟩
  · obtain ⟨hone, hle, hbefore⟩ := hhere.head k hk
    refine ⟨hhere.start, ?_, ?_, fun k' hk' => ?_⟩
    · -- The message of the call is the last one, for none was found behind the name of the call.
      rw [hplaces, List.pairwise_append]
      refine ⟨h.rising, List.pairwise_singleton _ _, fun place hplace last hlast => ?_⟩
      rw [List.mem_singleton.mp hlast]
      exact hbefore place hplace
    · intro place hplace
      rw [hplaces, List.mem_append, List.mem_singleton] at hplace
      rcases hplace with hplace | rfl
      · exact hhere.within place hplace
      · show g.firstLine + 1 ≤ g.firstLine + (k : Int) ∧
          g.firstLine + (k : Int) ≤ g.firstLine + t.row
        omega
    · rw [hidle] at hk'
      cases hk'

/-- Tokens whose rows never go back keep the messages in order. -/
theorem Ordered.run {last : Nat} {ts : List Token} (h : Ordered g row r)
    (hrows : ts.Pairwise (·.row ≤ ·.row))
    (hfrom : ∀ t ∈ ts, row ≤ t.row) (hto : ∀ t ∈ ts, t.row ≤ last) (hle : row ≤ last) :
    Ordered g last (r.run g ts).1 := by
  induction ts generalizing row r with
  | nil => exact h.mono hle
  | cons t ts ih =>
    rw [List.pairwise_cons] at hrows
    rw [List.forall_mem_cons] at hfrom hto
    rw [Reader.run]
    split
    · next hstep => exact ih (h.step hfrom.1 hstep) hrows.2 hrows.1 hto.2 hto.1
    · exact h.mono hle

/-- After every token the messages found so far are in order, between the first row and the row of
the token. -/
theorem run_rising (g : Reading) {read : List Token} {t : Token} {rest : List Token}
    (hrows : (read ++ t :: rest).Pairwise (·.row ≤ ·.row))
    (hfirst : ∀ u ∈ (read ++ t :: rest).head?, 1 ≤ u.row) :
    ((Reader.run g {} (read ++ [t])).1.messages.map (·.location.line)).Pairwise (· ≤ ·) ∧
      ∀ m ∈ (Reader.run g {} (read ++ [t])).1.messages,
        g.firstLine + 1 ≤ m.location.line ∧ m.location.line ≤ g.firstLine + t.row := by
  rw [List.append_cons] at hrows hfirst
  have hone : ∀ u ∈ read ++ [t] ++ rest, 1 ≤ u.row := by
    cases hall : read ++ [t] ++ rest with
    | nil => nofun
    | cons first more =>
      rw [hall] at hrows hfirst
      have hfirst := hfirst first rfl
      rw [List.pairwise_cons] at hrows
      exact List.forall_mem_cons.mpr ⟨hfirst, fun u hu => Nat.le_trans hfirst (hrows.1 u hu)⟩
  have hread := fun u hu => hone u (List.mem_append_left rest hu)
  have hprefix := (List.pairwise_append.mp hrows).1
  have hto : ∀ u ∈ read ++ [t], u.row ≤ t.row := by
    intro u hu
    rcases List.mem_append.mp hu with hu | hu
    · exact (List.pairwise_append.mp hprefix).2.2 u hu t List.mem_cons_self
    · exact Nat.le_of_eq (congrArg Token.row (List.mem_singleton.mp hu))
  have hstart : Ordered g 1 {} := ⟨Nat.le_refl 1, .nil, nofun, nofun⟩
  have h := hstart.run hprefix hread hto (hread t (List.mem_append_right read List.mem_cons_self))
  have hrising := h.rising
  rw [places, List.pairwise_map] at hrising
  exact ⟨List.pairwise_map.mpr hrising, fun m hm => h.within m.location (List.mem_map_of_mem hm)⟩

/-- Two calls up to the last bracket: the first has a comment behind it, and the second goes over
two rows. -/
def twoCalls : List Token :=
  [⟨.name, "_", 1, 0⟩, ⟨.operator, "(", 1, 1⟩, ⟨.string, "'a'", 1, 2⟩, ⟨.operator, ")", 1, 5⟩,
    ⟨.comment, "# first", 1, 8⟩, ⟨.newline, "\n", 1, 15⟩, ⟨.name, "_", 2, 0⟩,
      ⟨.operator, "(", 2, 1⟩,
    ⟨.breakOnly, "\n", 2, 2⟩, ⟨.string, "'b'", 3, 1⟩]

def lastBracket : Token := ⟨.operator, ")", 3, 4⟩

def plainReading : Reading :=
  { options := { comments := .all }, keywords := .builtin, file := "a", firstLine := 7 }

theorem run_rising_twoCalls :
    (Reader.run plainReading {} (twoCalls ++ [lastBracket])).1.messages.map
    (fun m => (m.location.line, m.comment)) =
        [(8, "first"), (9, "")] ∧
      ((twoCalls ++ [lastBracket]).Pairwise (·.row ≤ ·.row) ∧
      ∀ u ∈ (twoCalls ++ [lastBracket]).head?, 1 ≤ u.row) ∧
      ((Reader.run plainReading {} (twoCalls ++ [lastBracket])).1.messages.map
      (·.location.line)).Pairwise (· ≤ ·) ∧
      ∀ m ∈ (Reader.run plainReading {} (twoCalls ++ [lastBracket])).1.messages,
        8 ≤ m.location.line ∧ m.location.line ≤ 10 := by
  have hrows : (twoCalls ++ [lastBracket]).Pairwise (·.row ≤ ·.row) ∧
      ∀ u ∈ (twoCalls ++ [lastBracket]).head?, 1 ≤ u.row := by decide
  exact ⟨by decide +kernel, hrows, run_rising plainReading hrows.1 hrows.2⟩

end Harvest.Source.Reader
