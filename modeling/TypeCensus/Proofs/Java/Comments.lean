import TypeCensus.Proofs.Java.Rereading

/-!
# Comments — a source with comments put in

A comment is a named child without a label, and may stand between any two children of any node.  Declarations are read
by labels and kinds that comments do not have.  There is one exception: the type of a parameter that takes any number
of values has no label, and is found as the first child that is neither the modifiers nor the declarator.  A comment
in front of it is taken for it.

* `Commented`: one tree is another one with comments put in.
* `rereading_undisturbed`: unless a comment leads a type, the two are read alike.
* `extraction_of_commented`: then the package and the types of a source stay the same.
-/

namespace TypeCensus.Java

open TypeCensus.Syntax (Node)

/-! ## Putting comments in -/

/-- A child whose text is read: a name, the type or the dimensions of a parameter, or the name of a package. -/
inductive IsRead (n c : Node) : Prop
  | name (hn : BearsName n) (hlabel : c.info.label = some "name")
  | words (hwords : IsWorded n c)
  | spread (hn : n.kind = "spread_parameter")
      (hc : (besides n).find? (fun c => !commentKinds.contains c.kind) = some c)

/-- One node is another one with comments put in, at any depth and between any children, but not into a text that is
read.  Other texts contain the comments, and all positions may have moved. -/
inductive Commented : Node → Node → Prop
  -- the pairing is given as a relation of its own, since it depends on the parent
  | mk {n n' : Node} (R : Node → Node → Prop) (kind : n'.kind = n.kind)
      (named : n'.info.named = n.info.named) (label : n'.info.label = n.info.label)
      (children : Woven R n.children n'.children) (below : ∀ c c', R c c' → Commented c c')
      (text : ∀ c c', R c c' → IsRead n c → c'.text = c.text) : Commented n n'

/-- A node stands somewhere in another one. -/
inductive Inside (root : Node) : Node → Prop
  | self : Inside root root
  | child {n c : Node} (h : Inside root n) (hc : c ∈ n.children) : Inside root c

/-- No comment leads the type of a parameter that takes any number of values. -/
def TypesLead (root : Node) : Prop :=
  ∀ n, Inside root n → n.kind = "spread_parameter" → ∀ c ∈ (besides n).head?, c.kind ∉ commentKinds

theorem Inside.of_child {n c m : Node} (h : Inside c m) (hc : c ∈ n.children) : Inside n m := by
  induction h with
  | self => exact .child .self hc
  | child _ hm ih => exact .child ih hm

theorem TypesLead.child {n c : Node} (h : TypesLead n) (hc : c ∈ n.children) : TypesLead c :=
  fun m hm => h m (hm.of_child hc)

theorem typesLead_iff {n : Node} :
    TypesLead n ↔ (n.kind = "spread_parameter" → ∀ c ∈ (besides n).head?, c.kind ∉ commentKinds) ∧
      ∀ c ∈ n.children, TypesLead c := by
  refine ⟨fun h => ⟨h n .self, fun c hc => h.child hc⟩, fun ⟨hself, hchildren⟩ m hm => ?_⟩
  have hcases : m = n ∨ ∃ c ∈ n.children, Inside c m := by
    induction hm with
    | self => exact .inl rfl
    | child _ hc ih =>
      obtain rfl | ⟨c, hchild, hinside⟩ := ih
      · exact .inr ⟨_, hc, .self⟩
      · exact .inr ⟨c, hchild, .child hinside hc⟩
  obtain rfl | ⟨c, hc, hinside⟩ := hcases
  · exact hself
  · exact hchildren c hc m hinside

/-! ## Reading a node -/

/-- A node with comments put in, none of which leads a type. -/
structure Undisturbed (n n' : Node) : Prop where
  commented : Commented n n'
  lead : TypesLead n'

/-- A child of a node, and the same with comments put in. -/
structure Carried (n c c' : Node) : Prop extends Undisturbed c c' where
  text : IsRead n c → c'.text = c.text

theorem Commented.kind_eq {n n' : Node} (h : Commented n n') : n'.kind = n.kind := by
  cases h with
  | mk R kind => exact kind

theorem Commented.named_eq {n n' : Node} (h : Commented n n') : n'.info.named = n.info.named := by
  cases h with
  | mk R _ named => exact named

theorem Commented.label_eq {n n' : Node} (h : Commented n n') : n'.info.label = n.info.label := by
  cases h with
  | mk R _ _ label => exact label

theorem plainText_eq {c c' : Node} (h : c'.text = c.text) : c'.plainText = c.plainText :=
  congrArg Text.plain h

namespace Undisturbed

variable {n n' : Node}

theorem children (h : Undisturbed n n') : Woven (Carried n) n.children n'.children := by
  obtain ⟨⟨R, -, -, -, hchildren, hbelow, htext⟩, hlead⟩ := h
  exact hchildren.imp_of_mem fun c c' hc' hpair =>
    ⟨⟨hbelow c c' hpair, hlead.child hc'⟩, htext c c' hpair⟩

/-- What is read off the text of the type in a parameter that takes any number of values is the same. -/
theorem map_besides (h : Undisturbed n n') (hkind : n.kind = "spread_parameter") :
    (besides n').head?.map (·.plainText) = (besides n).head?.map (·.plainText) := by
  have hnamed : Woven (Carried n) n.namedChildren n'.namedChildren :=
    h.children.filter fun _ _ hpair => hpair.commented.named_eq
  have hwoven : Woven (Carried n) (besides n) (besides n') :=
    hnamed.filter fun _ _ hpair => by rw [hpair.commented.kind_eq]
  have hlead : ∀ c ∈ (besides n').head?, c.kind ∉ commentKinds :=
    h.lead n' .self (h.commented.kind_eq.trans hkind)
  have hrel := hwoven.rel_head? fun c hc hcomment => hlead c hc hcomment.kind
  refine map_eq_of_rel hrel fun c hc c' hc' hpair => plainText_eq (hpair.text (.spread hkind ?_))
  -- a pair of comments would lead the type in the second tree
  have hnot : c.kind ∉ commentKinds := hpair.commented.kind_eq ▸ hlead c' hc'
  obtain ⟨rest, hbesides⟩ := List.head?_eq_some_iff.mp hc
  rw [hbesides, List.find?_cons_of_pos]
  simpa using hnot

end Undisturbed

/-- A child with comments put in is read as before. -/
theorem Carried.child {n c c' : Node} (h : Carried n c c') : Child Undisturbed n c c' where
  rel := h.toUndisturbed
  name hn hlabel := h.text (.name hn hlabel)
  words hwords := plainText_eq (h.text (.words hwords))

/-- Unless a comment leads a type, a source with comments put in is read as before. -/
theorem rereading_undisturbed : Rereading Undisturbed where
  kind h := h.commented.kind_eq
  named h := h.commented.named_eq
  label h := h.commented.label_eq
  children h := h.children.imp_of_mem fun _ _ _ hpair => hpair.child
  besides h hkind _ := h.map_besides hkind

theorem Undisturbed.package?_eq {n n' : Node} (h : Undisturbed n n') : package? n' = package? n :=
  rereading_undisturbed.package?_eq h

theorem Undisturbed.types_eq {n n' : Node} (h : Undisturbed n n') (package : Option String) :
    types n' package = types n package :=
  rereading_undisturbed.types_eq h package

/-- **Comments.**  Where comments are put into a source, at any depth and between any children, but not into the texts
of names, types, dimensions and packages, its package and its types stay the same with all that is in them.  The one
place for which this does not hold is in front of the type of a parameter that takes any number of values. -/
theorem extraction_of_commented {root root' : Node} (h : Commented root root') (hlead : TypesLead root') :
    package? root' = package? root ∧ ∀ package, types root' package = types root package :=
  have hroot : Undisturbed root root' := ⟨h, hlead⟩
  ⟨hroot.package?_eq, hroot.types_eq⟩

/-! ## A comment that is taken for a type -/

theorem Commented.refl (n : Node) : Commented n n :=
  .mk (fun c c' => c ∈ n.children ∧ c' = c) rfl rfl rfl (.of_refl fun _ hc => ⟨hc, rfl⟩)
    (fun c _ ⟨_, heq⟩ => heq ▸ Commented.refl c) fun _ _ ⟨_, heq⟩ _ => congrArg Node.text heq
termination_by sizeOf n
decreasing_by exact Node.sizeOf_lt_of_mem_children ‹_›

/-- A node with comments in it whose own text is the same. -/
def Same (c c' : Node) : Prop := Commented c c' ∧ c'.text = c.text

theorem same_mk {i : Node.Info} {cs cs' : List Node} (h : Woven Same cs cs') :
    Same (.mk i cs) (.mk i cs') :=
  ⟨.mk Same rfl rfl rfl h (fun _ _ hpair => hpair.1) fun _ _ hpair _ => hpair.2, rfl⟩

theorem Woven.refl (cs : List Node) : Woven Same cs cs := .of_refl fun c _ => ⟨.refl c, rfl⟩

theorem typesLead_mk {i : Node.Info} {cs : List Node} :
    TypesLead (.mk i cs) ↔
      (i.kind = "spread_parameter" → ∀ c ∈ (besides (.mk i cs)).head?, c.kind ∉ commentKinds) ∧
        ∀ c ∈ cs, TypesLead c :=
  typesLead_iff

/-- A source with a constructor that takes any number of values, and nodes before the type of its parameter and after
it. -/
def spreadSource (before after : List Node) : Node :=
  .mk { kind := "program", named := true }
    [bodied "class_declaration" "A"
      [.mk { kind := "constructor_declaration", named := true }
        [.mk { kind := "identifier", named := true, label := some "name", text := "A" } [],
          .mk { kind := "formal_parameters", named := true, label := some "parameters" }
            [.mk { kind := "spread_parameter", named := true }
              (.mk { kind := "modifiers", named := true } [.mk { kind := "final", named := false } []] ::
                (before ++ .mk { kind := "integral_type", named := true, text := "int" } [] ::
                  (after ++ [.mk { kind := "variable_declarator", named := true }
                    [.mk { kind := "identifier", named := true, label := some "name", text := "a" } []]])))]]]]

theorem spreadSource_commented {before after : List Node} (hbefore : ∀ c ∈ before, IsComment c)
    (hafter : ∀ c ∈ after, IsComment c) : Commented (spreadSource [] []) (spreadSource before after) := by
  have hchildren {t d : Node} : Woven Same ([] ++ t :: ([] ++ [d])) (before ++ t :: (after ++ [d])) :=
    (Woven.of_comments hbefore).append
      (.pair ⟨.refl t, rfl⟩ ((Woven.of_comments hafter).append (.refl [d])))
  have hparameter {i : Node.Info} {m t d : Node} :
      Same (.mk i (m :: ([] ++ t :: ([] ++ [d])))) (.mk i (m :: (before ++ t :: (after ++ [d])))) :=
    same_mk (.pair ⟨.refl m, rfl⟩ hchildren)
  have hconstructor {i j : Node.Info} {name c c' : Node} (h : Same c c') :
      Same (.mk i [name, .mk j [c]]) (.mk i [name, .mk j [c']]) :=
    same_mk (.pair ⟨.refl name, rfl⟩ (.pair (same_mk (.pair h .nil)) .nil))
  exact (same_mk (.pair (hconstructor (hconstructor hparameter)) .nil)).1

/-- A comment. -/
def sampleComment : Node := .mk { kind := "block_comment", named := true, text := "/* c */" } []

theorem isComment_sampleComment : IsComment sampleComment := ⟨by decide, rfl, rfl⟩

/-- A comment after the type changes nothing. -/
theorem extraction_comment_after :
    Commented (spreadSource [] []) (spreadSource [] [sampleComment]) ∧
      TypesLead (spreadSource [] [sampleComment]) ∧
      types (spreadSource [] [sampleComment]) none = types (spreadSource [] []) none := by
  have hcommented : Commented (spreadSource [] []) (spreadSource [] [sampleComment]) :=
    spreadSource_commented (by simp) (by simp [isComment_sampleComment])
  have hlead : TypesLead (spreadSource [] [sampleComment]) := by
    simp [spreadSource, bodied, sampleComment, typesLead_mk, besides, Node.namedChildren, Node.children,
      Node.kind, Node.info, commentKinds]
  exact ⟨hcommented, hlead, (extraction_of_commented hcommented hlead).2 none⟩

/-- A comment before the type is taken for it. -/
theorem extraction_comment_before :
    Commented (spreadSource [] []) (spreadSource [sampleComment] []) ∧
      (types (spreadSource [] []) none).map (·.members.constructors.map (·.signature)) = [["A(int...)"]] ∧
      (types (spreadSource [sampleComment] []) none).map (·.members.constructors.map (·.signature)) =
        [["A(/* c */...)"]] :=
  ⟨spreadSource_commented (by simp [isComment_sampleComment]) (by simp), by decide +kernel,
    by decide +kernel⟩

end TypeCensus.Java
