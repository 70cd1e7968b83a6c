import TypeCensus.Sink

/-!
# Writing — what a sink takes

However some output is cut into writes, a sink takes the same bytes of it.

* `writeBytes_append`: two writes, one after the other.
* `writeEach_eq_writeBytes`: pieces are taken like all of their bytes at once, whether they fit or not.
* `writeLines_eq_writeBytes`: lines are taken like one text.
-/

namespace TypeCensus.Sink

@[simp] theorem bytesOf_append (s t : String) : bytesOf (s ++ t) = bytesOf s ++ bytesOf t := by
  simp [bytesOf]

@[simp] theorem bytesOf_empty : bytesOf "" = [] := rfl

theorem bytesOf_join (ts : List String) : bytesOf (String.join ts) = (ts.map bytesOf).flatten := by
  induction ts with
  | nil => rfl
  | cons t ts ih =>
    rw [String.join_cons, bytesOf_append, ih]
    rfl

/-- The text of some lines, each ended by a line feed. -/
def textOf (ls : List String) : String := String.join (ls.map (· ++ "\n"))

@[simp] theorem textOf_nil : textOf [] = "" := rfl

@[simp] theorem textOf_cons (l : String) (ls : List String) :
    textOf (l :: ls) = l ++ "\n" ++ textOf ls := by
  simp [textOf]

theorem writeBytes_of_le {written bs : List UInt8} {n : Nat} (h : bs.length ≤ n) :
    (⟨written, some n⟩ : Sink).writeBytes bs = (⟨written ++ bs, some (n - bs.length)⟩, true) := by
  simp [writeBytes, h, List.take_of_length_le]

theorem writeBytes_of_lt {written bs : List UInt8} {n : Nat} (h : n < bs.length) :
    (⟨written, some n⟩ : Sink).writeBytes bs = (⟨written ++ bs.take n, some 0⟩, false) := by
  have hfull : n - bs.length = 0 := by omega
  simp [writeBytes, h, hfull]

theorem writeBytes_append (s : Sink) (a b : List UInt8) :
    s.writeBytes (a ++ b) =
      (((s.writeBytes a).1.writeBytes b).1,
        (s.writeBytes a).2 && ((s.writeBytes a).1.writeBytes b).2) := by
  obtain ⟨written, room⟩ := s
  cases room with
  | none => simp [writeBytes]
  | some n =>
    have hfits : a.length + b.length ≤ n ↔ a.length ≤ n ∧ b.length ≤ n - a.length := by omega
    simp [writeBytes, List.take_append, Nat.sub_sub, hfits]

/-- A sink that was too small for some bytes takes nothing more. -/
theorem writeBytes_of_full {s : Sink} {a : List UInt8} (h : (s.writeBytes a).2 = false)
    (b : List UInt8) : ((s.writeBytes a).1.writeBytes b).1 = (s.writeBytes a).1 := by
  obtain ⟨written, room⟩ := s
  cases room with
  | none => simp [writeBytes] at h
  | some n =>
    have hfull : n - a.length = 0 := by
      have hlt : n < a.length := by simpa [writeBytes] using h
      omega
    simp [writeBytes, hfull]

/-! ## Several writes -/

/-- Writes pieces one after the other, until one does not fit. -/
def writeEach (s : Sink) : List (List UInt8) → Sink × Bool
  | [] => (s, true)
  | p :: ps =>
    match s.writeBytes p with
    | (s, true) => writeEach s ps
    | (s, false) => (s, false)

/-- However bytes are cut into pieces, a sink takes the same of them. -/
theorem writeEach_eq_writeBytes (s : Sink) (ps : List (List UInt8)) :
    s.writeEach ps = s.writeBytes ps.flatten := by
  induction ps generalizing s with
  | nil =>
    obtain ⟨written, room⟩ := s
    cases room <;> simp [writeEach, writeBytes]
  | cons p ps ih =>
    rw [List.flatten_cons, writeBytes_append, writeEach]
    cases hw : s.writeBytes p with
    | mk s' fits =>
      cases fits with
      | true => simp [ih]
      | false =>
        -- the rest is not written here, and would not be taken there
        have hfull := writeBytes_of_full (congrArg Prod.snd hw) ps.flatten
        rw [hw] at hfull
        simp [hfull]

theorem writeLines_eq_writeEach (s : Sink) (ls : List String) :
    s.writeLines ls = s.writeEach (ls.map fun l => bytesOf (l ++ "\n")) := by
  induction ls generalizing s with
  | nil => rfl
  | cons l ls ih =>
    rw [List.map_cons, writeLines, writeEach, write]
    cases s.writeBytes (bytesOf (l ++ "\n")) with
    | mk s' fits =>
      cases fits with
      | true => exact ih s'
      | false => rfl

/-- Lines are taken like one text. -/
theorem writeLines_eq_writeBytes (s : Sink) (ls : List String) :
    s.writeLines ls = s.writeBytes (bytesOf (textOf ls)) := by
  have hbytes : (ls.map fun l => bytesOf (l ++ "\n")).flatten = bytesOf (textOf ls) := by
    rw [textOf, bytesOf_join, List.map_map]
    rfl
  rw [writeLines_eq_writeEach, writeEach_eq_writeBytes, hbytes]

end TypeCensus.Sink
