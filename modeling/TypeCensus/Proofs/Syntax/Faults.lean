import TypeCensus.Java.Unit
import TypeCensus.Proofs.Text.Blanks
import Mathlib.Data.List.Find

/-!
# Faults — where the search for a fault ends

The search for the fault of a source enters only nodes that are marked as faulty, and turns back where it finds
nothing.  Where the marks are right it finds what a walk over all nodes finds: the first broken or missing node in
post-order, which has no other one below it.  Where some faults have no mark it finds the first one that has.

* `postorder`, `Marked`, `FirstFault`: the walk, right marks, and what is to be found.
* `innermostFault?_eq_of_sealed`: the search finds the first fault that is marked.
* `innermostFault?_eq_find?`: where the marks are right, it agrees with the walk.
* `not_below_of_find?`: what a walk finds first has nothing like it below.
* `trimmedSize_le_iff_reachesEnd`: when a node reaches the end of a text.
* `fault_of_marked`: which sources are refused, and the message that names the place.
-/

namespace TypeCensus.Syntax

namespace Node

/-! ## All nodes -/

mutual

/-- All nodes of a tree, each after those below it. -/
def postorder : Node → List Node
  | mk i cs => postorderIn cs ++ [mk i cs]

/-- All nodes of some trees, one tree after the other. -/
def postorderIn : List Node → List Node
  | [] => []
  | c :: cs => postorder c ++ postorderIn cs

end

/-- A node is marked as faulty just if something in it, itself included, is broken or missing; and so are all nodes
below it. -/
def Marked (root : Node) : Prop :=
  ∀ n ∈ root.postorder, n.info.faulty = true ↔ ∃ m ∈ n.postorder, m.isFault = true

/-- The first broken or missing node of a tree in post-order. -/
structure FirstFault (root m : Node) : Prop where
  isFault : m.isFault = true
  first : ∃ before after, root.postorder = before ++ m :: after ∧ ∀ k ∈ before, ¬ k.isFault = true

instance (root : Node) : Decidable root.Marked := inferInstanceAs (Decidable (∀ n ∈ _, _))

theorem postorder_eq (n : Node) : n.postorder = postorderIn n.children ++ [n] := by
  obtain ⟨i, cs⟩ := n
  rfl

theorem self_mem_postorder (n : Node) : n ∈ n.postorder := by
  rw [postorder_eq]
  simp

theorem mem_postorderIn {cs : List Node} {m : Node} : m ∈ postorderIn cs ↔ ∃ c ∈ cs, m ∈ c.postorder := by
  induction cs with
  | nil => simp [postorderIn]
  | cons c cs ih => simp [postorderIn, ih]

theorem postorder_subset_of_mem_children {n c : Node} (hc : c ∈ n.children) : c.postorder ⊆ n.postorder := by
  intro m hm
  rw [postorder_eq, List.mem_append]
  exact .inl (mem_postorderIn.mpr ⟨c, hc, hm⟩)

theorem postorder_subset_of_mem {n m : Node} (hm : m ∈ n.postorder) : m.postorder ⊆ n.postorder := by
  rw [postorder_eq, List.mem_append] at hm
  obtain hm | hm := hm
  · obtain ⟨c, hc, hm⟩ := mem_postorderIn.mp hm
    exact fun x hx => postorder_subset_of_mem_children hc (postorder_subset_of_mem hm hx)
  · obtain rfl := List.mem_singleton.mp hm
    exact fun x hx => hx
termination_by sizeOf n
decreasing_by exact sizeOf_lt_of_mem_children hc

theorem firstFault_iff {root m : Node} :
    FirstFault root m ↔ root.postorder.find? isFault = some m := by
  rw [List.find?_eq_some_iff_append]
  constructor
  · rintro ⟨hm, before, after, hsplit, hbefore⟩
    exact ⟨hm, before, after, hsplit, fun k hk => by simpa using hbefore k hk⟩
  · rintro ⟨hm, before, after, hsplit, hbefore⟩
    exact ⟨hm, before, after, hsplit, fun k hk => by simpa using hbefore k hk⟩

/-! ## The search -/

/-- The search enters the node. -/
def isMarked (n : Node) : Bool := n.info.faulty || n.info.missing

/-- A fault that the search can find. -/
def isMarkedFault (n : Node) : Bool := n.isFault && n.isMarked

/-- What is not entered holds no fault that could be found. -/
def Sealed (root : Node) : Prop :=
  ∀ n ∈ root.postorder, n.isMarked = false → ∀ m ∈ n.postorder, ¬ m.isMarkedFault = true

theorem Sealed.of_mem_children {n c : Node} (h : n.Sealed) (hc : c ∈ n.children) : c.Sealed :=
  fun m hm => h m (postorder_subset_of_mem_children hc hm)

mutual

/-- The search finds the first fault that is marked. -/
theorem innermostFault?_eq_of_sealed : ∀ n : Node, n.Sealed → (n.isFault = true → n.isMarked = true) →
    n.innermostFault? = n.postorder.find? isMarkedFault
  | mk i cs, h, hmark => by
    have hchildren : innermostFaultIn? cs = (postorderIn cs).find? isMarkedFault :=
      innermostFaultIn?_eq_of_sealed cs fun c hc => h.of_mem_children hc
    have hself : (mk i cs).isMarkedFault = (mk i cs).isFault := by
      rw [isMarkedFault, Bool.and_eq_left_iff_imp]
      exact hmark
    rw [innermostFault?, hchildren, postorder, List.find?_append]
    cases (postorderIn cs).find? isMarkedFault with
    | some m => rfl
    | none => by_cases hfault : (mk i cs).isFault = true <;> simp [hself, hfault]

/-- The same for some children, of which those are passed over that are not marked. -/
theorem innermostFaultIn?_eq_of_sealed :
    ∀ cs : List Node, (∀ c ∈ cs, c.Sealed) → innermostFaultIn? cs = (postorderIn cs).find? isMarkedFault
  | [], _ => rfl
  | c :: cs, h => by
    have hc : c.Sealed := h c (by simp)
    have hrest : innermostFaultIn? cs = (postorderIn cs).find? isMarkedFault :=
      innermostFaultIn?_eq_of_sealed cs fun d hd => h d (by simp [hd])
    rw [innermostFaultIn?, hrest, postorderIn, List.find?_append]
    by_cases hentered : (c.info.faulty || c.info.missing) = true
    · rw [if_pos hentered, innermostFault?_eq_of_sealed c hc fun _ => hentered]
      cases c.postorder.find? isMarkedFault <;> rfl
    · have hnone : c.postorder.find? isMarkedFault = none :=
        List.find?_eq_none.mpr (hc c c.self_mem_postorder ((Bool.not_eq_true _).mp hentered))
      rw [if_neg hentered, hnone]
      rfl

end

/-- A node with a right mark is entered if it is a fault, and holds none if it is not entered. -/
theorem Marked.isMarked_iff {root n : Node} (h : root.Marked) (hn : n ∈ root.postorder) :
    n.isMarked = true ↔ ∃ m ∈ n.postorder, m.isFault = true := by
  rw [← h n hn, isMarked, Bool.or_eq_true, or_iff_left_iff_imp]
  intro hmissing
  exact (h n hn).mpr ⟨n, n.self_mem_postorder, by simp [isFault, hmissing]⟩

/-- Where the marks are right, the search finds what a walk over all nodes finds. -/
theorem innermostFault?_eq_find? (n : Node) (h : n.Marked) : n.innermostFault? = n.postorder.find? isFault := by
  have hfault (m : Node) (hm : m ∈ n.postorder) (hf : m.isFault = true) : m.isMarked = true :=
    (h.isMarked_iff hm).mpr ⟨m, m.self_mem_postorder, hf⟩
  have hsealed : n.Sealed := by
    intro k hk hnot m hm hf
    rw [isMarkedFault, Bool.and_eq_true] at hf
    rw [(h.isMarked_iff hk).mpr ⟨m, hm, hf.1⟩] at hnot
    cases hnot
  rw [innermostFault?_eq_of_sealed n hsealed (hfault n n.self_mem_postorder)]
  refine List.find?_congr fun m hm => ?_
  rw [isMarkedFault, Bool.and_eq_left_iff_imp]
  exact hfault m hm

mutual

/-- What a walk over a tree finds first has nothing like it below. -/
theorem not_below_of_find? (p : Node → Bool) : ∀ n m : Node, n.postorder.find? p = some m →
    ∀ k ∈ postorderIn m.children, ¬ p k = true
  | mk i cs, m, h => by
    rw [postorder, List.find?_append] at h
    cases hbelow : (postorderIn cs).find? p with
    | some m' =>
      rw [hbelow] at h
      obtain rfl : m' = m := by simpa using h
      exact not_below_of_find?_in p cs m' hbelow
    | none =>
      -- nothing below the node itself is like that, so it is the one that was found
      rw [hbelow] at h
      have hself : m = mk i cs := by
        have hmem : m ∈ [mk i cs] := List.mem_of_find?_eq_some (by simpa using h)
        simpa using hmem
      rw [hself]
      exact List.find?_eq_none.mp hbelow

theorem not_below_of_find?_in (p : Node → Bool) : ∀ (cs : List Node) (m : Node),
    (postorderIn cs).find? p = some m → ∀ k ∈ postorderIn m.children, ¬ p k = true
  | [], m, h => by simp [postorderIn] at h
  | c :: cs, m, h => by
    rw [postorderIn, List.find?_append] at h
    cases hfirst : c.postorder.find? p with
    | some m' =>
      rw [hfirst] at h
      obtain rfl : m' = m := by simpa using h
      exact not_below_of_find? p c m' hfirst
    | none =>
      rw [hfirst] at h
      exact not_below_of_find?_in p cs m (by simpa using h)

end

theorem isSome_find?_isFault_iff {n : Node} :
    (n.postorder.find? isFault).isSome = true ↔ ∃ m ∈ n.postorder, m.isFault = true := by
  rw [List.find?_isSome]

/-! ## The end of a text -/

/-- A node reaches the end of a text, or at least the blanks that stand there. -/
def ReachesEnd (text : String) (n : Node) : Prop :=
  ∃ kept blanks : List Char, text.toList = kept ++ blanks ∧ (∀ c ∈ blanks, Text.isBlank c = true) ∧
    (∀ c ∈ kept.getLast?, Text.isBlank c = false) ∧ (String.ofList kept).utf8ByteSize ≤ n.info.stop.byte

theorem trimmedSize_le_iff_reachesEnd {text : String} {n : Node} :
    Text.trimmedSize text ≤ n.info.stop.byte ↔ ReachesEnd text n := by
  constructor
  · intro h
    obtain ⟨kept, blanks, hsplit, hblanks, hkept⟩ := Text.exists_eq_append_blanks text.toList
    rw [Text.trimmedSize, hsplit, Text.trimEnd_append hblanks hkept] at h
    exact ⟨kept, blanks, hsplit, hblanks, hkept, h⟩
  · rintro ⟨kept, blanks, hsplit, hblanks, hkept, h⟩
    rwa [Text.trimmedSize, hsplit, Text.trimEnd_append hblanks hkept]

end Node

/-! ## Messages -/

theorem describe_eq (p : Text.Point) :
    describe p = "line " ++ toString (p.line + 1) ++ ", column " ++ toString (p.column + 1) := rfl

theorem message_unexpectedEnd (p : Text.Point) : (Fault.unexpectedEnd p).message =
    "unexpected end of input at line " ++ toString (p.line + 1) ++ ", column " ++ toString (p.column + 1) := by
  have hmessage : (Fault.unexpectedEnd p).message = "unexpected end of input at " ++ describe p := rfl
  have hlead : "unexpected end of input at line " = "unexpected end of input at " ++ "line " := rfl
  rw [hmessage, describe_eq, hlead]
  simp only [String.append_assoc]

theorem message_unreadable (p : Text.Point) : (Fault.unreadable p).message =
    "syntax error at line " ++ toString (p.line + 1) ++ ", column " ++ toString (p.column + 1) := by
  have hmessage : (Fault.unreadable p).message = "syntax error at " ++ describe p := rfl
  have hlead : "syntax error at line " = "syntax error at " ++ "line " := rfl
  rw [hmessage, describe_eq, hlead]
  simp only [String.append_assoc]

/-- The fault of a tree, told by the node that the search finds. -/
theorem fault_of_found {root m : Node} (hm : root.innermostFault? = some m) (text : String) :
    (m.info.broken = true ∧ m.ReachesEnd text → root.fault text = .unexpectedEnd m.info.stop) ∧
      (¬ (m.info.broken = true ∧ m.ReachesEnd text) → root.fault text = .unreadable m.info.start) := by
  have hfault : root.fault text =
      if m.info.broken && Text.trimmedSize text ≤ m.info.stop.byte then .unexpectedEnd m.info.stop
      else .unreadable m.info.start := by
    rw [Node.fault, hm]
  have hend : (m.info.broken && decide (Text.trimmedSize text ≤ m.info.stop.byte)) = true ↔
      m.info.broken = true ∧ m.ReachesEnd text := by
    rw [Bool.and_eq_true, decide_eq_true_iff, Node.trimmedSize_le_iff_reachesEnd]
  constructor
  · intro hreaches
    rw [hfault, if_pos (hend.mpr hreaches)]
  · intro hreaches
    rw [hfault, if_neg fun h => hreaches (hend.mp h)]

end TypeCensus.Syntax

namespace TypeCensus.Java

open TypeCensus.Syntax (Fault Node)

/-- **Faults.**  Let a tree be marked rightly.  The search in it ends without a fault just if no node is broken or
missing, and otherwise at the first such node in post-order, which has no other one below it.  A source that is read as
this tree is refused just if there is such a node, with a message that names a place: the end of that node where broken
text reaches the end of the source, and its beginning in all other cases. -/
theorem fault_of_marked (root : Node) (h : root.Marked) :
    (root.innermostFault? = none ↔ ∀ n ∈ root.postorder, ¬ n.isFault = true) ∧
      (∀ m, root.innermostFault? = some m ↔ root.FirstFault m) ∧
      (∀ m, root.innermostFault? = some m → ∀ k ∈ Node.postorderIn m.children, ¬ k.isFault = true) ∧
      ∀ path text,
        ((∃ f, unitOrFault path text root = .error f) ↔ ∃ n ∈ root.postorder, n.isFault = true) ∧
          ∀ f, unitOrFault path text root = .error f → ∃ m, root.FirstFault m ∧
            (m.info.broken = true ∧ m.ReachesEnd text → f.message = "unexpected end of input at line " ++
              toString (m.info.stop.line + 1) ++ ", column " ++ toString (m.info.stop.column + 1)) ∧
            (¬ (m.info.broken = true ∧ m.ReachesEnd text) → f.message = "syntax error at line " ++
              toString (m.info.start.line + 1) ++ ", column " ++ toString (m.info.start.column + 1)) := by
  have hsearch : root.innermostFault? = root.postorder.find? Node.isFault :=
    root.innermostFault?_eq_find? h
  have hmark : root.info.faulty = true ↔ ∃ n ∈ root.postorder, n.isFault = true :=
    h root root.self_mem_postorder
  refine ⟨?_, fun m => ?_, fun m hm => ?_, fun path text => ⟨?_, fun f hf => ?_⟩⟩
  · rw [hsearch, List.find?_eq_none]
  · rw [hsearch, Node.firstFault_iff]
  · exact Node.not_below_of_find? Node.isFault root m (hsearch.symm.trans hm)
  · rw [← hmark, unitOrFault]
    by_cases hfaulty : root.info.faulty = true <;> simp [hfaulty]
  · have hfaulty : root.info.faulty = true := by
      by_contra hnot
      rw [unitOrFault, if_neg hnot] at hf
      cases hf
    rw [unitOrFault, if_pos hfaulty] at hf
    obtain rfl : root.fault text = f := Except.error.inj hf
    obtain ⟨m, hm⟩ := Option.isSome_iff_exists.mp (Node.isSome_find?_isFault_iff.mpr (hmark.mp hfaulty))
    have hfirst : root.FirstFault m := Node.firstFault_iff.mpr hm
    obtain ⟨hends, hbegins⟩ := Syntax.fault_of_found (hsearch.trans hm) text
    refine ⟨m, hfirst, fun hreaches => ?_, fun hreaches => ?_⟩
    · rw [hends hreaches, Syntax.message_unexpectedEnd]
    · rw [hbegins hreaches, Syntax.message_unreadable]

/-- A token that could not be read, inside of broken text. -/
def sampleFault : Node :=
  .mk { kind := "ERROR", named := true, text := "\x7b", start := ⟨21, 1, 10⟩, stop := ⟨22, 1, 11⟩
        broken := true, faulty := true } []

/-- A class without faults, broken text that holds broken text, and a missing token. -/
def sampleBroken : Node :=
  .mk { kind := "program", named := true, stop := ⟨24, 1, 13⟩, faulty := true }
    [.mk { kind := "class_declaration", named := true, text := "class A \x7b\x7d" }
        [.mk { kind := "identifier", named := true, label := some "name", text := "A" } []],
      .mk { kind := "ERROR", named := true, text := "x class B \x7b", start := ⟨11, 1, 0⟩
            stop := ⟨22, 1, 11⟩, broken := true, faulty := true }
        [.mk { kind := "identifier", named := true, text := "x" } [], sampleFault],
      .mk { kind := "\x7d", named := false, start := ⟨22, 1, 11⟩, stop := ⟨22, 1, 11⟩
            missing := true, faulty := true } []]

/-- The inner one of the two broken nodes is found, and the source ends in it. -/
theorem fault_sampleBroken :
    sampleBroken.Marked ∧ sampleBroken.innermostFault? = some sampleFault ∧
      sampleBroken.FirstFault sampleFault ∧
      ∃ f, unitOrFault "B.java" "class A \x7b\x7d\nx class B \x7b  " sampleBroken = .error f ∧
        f.message = "unexpected end of input at line 2, column 12" := by
  have hmarked : sampleBroken.Marked := by decide +kernel
  have hfound : sampleBroken.innermostFault? = some sampleFault := rfl
  obtain ⟨-, hfirst, -, hsource⟩ := fault_of_marked sampleBroken hmarked
  obtain ⟨hrefused, hmessage⟩ := hsource "B.java" "class A \x7b\x7d\nx class B \x7b  "
  obtain ⟨f, hf⟩ := hrefused.mpr (by decide +kernel)
  obtain ⟨m, hm, hends, -⟩ := hmessage f hf
  obtain rfl : m = sampleFault := Option.some.inj (((hfirst m).mpr hm).symm.trans hfound)
  have hreaches : sampleFault.ReachesEnd "class A \x7b\x7d\nx class B \x7b  " :=
    Node.trimmedSize_le_iff_reachesEnd.mp (by decide +kernel)
  exact ⟨hmarked, hfound, (hfirst _).mp hfound, f, hf, hends ⟨rfl, hreaches⟩⟩

end TypeCensus.Java
