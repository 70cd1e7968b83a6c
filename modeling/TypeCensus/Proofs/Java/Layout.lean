import TypeCensus.Java.Unit
import TypeCensus.Proofs.Java.Members
import TypeCensus.Proofs.Java.Rereading
import TypeCensus.Proofs.Syntax.Faults
import TypeCensus.Proofs.Text.Blanks

/-!
# Layout — what blanks in a source have no say in

Packages and types of parameters may be written over several lines.  They are taken as words with single spaces between
them, so that a unit does not depend on how they are laid out.  Names are taken as they are.

* `SpellsType`, `Spelled`: how the package and the types of parameters of a unit are put together.
* `Respaced`: one tree is another one with other blanks in types, dimensions and packages.
* `unitOf_respaced`: both have the same unit.
* `exists_declaration_of_mem_typesOf`: where the types of a source come from, with what holds of their qualifiers.
* `textsLack_of_mem_unitOf`: a blank that is in no name is in no text of a type either, unless it is a space.
-/

namespace TypeCensus.Java

open TypeCensus.Syntax (Node)
open TypeCensus.Text (Flat PlainOf isBlank)

/-! ## Packages and types of parameters -/

/-- The type of a parameter: the words of its type and, right after them, those of its dimensions, if it has any. -/
inductive SpellsType (n : Node) : String → Prop
  | plain {t : Node} {a : String} (ht : TypeNode n t) (ha : PlainOf t.text a)
      (hnone : n.kind = "spread_parameter" ∨ n.labelled? "dimensions" = none) : SpellsType n a
  | dimensions {t m : Node} {a b : String} (ht : TypeNode n t) (ha : PlainOf t.text a)
      (hkind : n.kind = "formal_parameter") (hm : n.labelled? "dimensions" = some m) (hb : PlainOf m.text b) :
      SpellsType n (a ++ b)

/-- The package and the types of parameters of a unit are spelled by nodes of its source, and have no blanks but
spaces. -/
structure Spelled (root : Node) (u : CompilationUnit) : Prop where
  package : ∀ p ∈ u.package, Flat p ∧ ∃ n ∈ root.namedChildren, ∃ c ∈ n.namedChildren,
    n.kind = "package_declaration" ∧ c.kind ∈ ["scoped_identifier", "identifier"] ∧ PlainOf c.text p
  parameters : ∀ d ∈ u.types, ∀ c ∈ d.members.constructors, ∀ p ∈ c.parameters,
    Flat p.typeName ∧ ∃ n ∈ root.postorder, SpellsType n p.typeName

theorem SpellsType.flat {n : Node} {s : String} (h : SpellsType n s) : Flat s := by
  cases h with
  | plain _ ha _ => exact ha.flat
  | dimensions _ ha _ _ hb => exact ha.flat.append hb.flat

theorem spellsType_of_parameter? {n : Node} {p : Parameter} (h : parameter? n = some p) :
    SpellsType n p.typeName := by
  obtain ⟨t, ht, ⟨hkind, -, htype⟩ | ⟨hkind, -, htype⟩⟩ := typeNode_of_parameter? h
  · cases hm : n.labelled? "dimensions" with
    | none =>
      have hplain : p.typeName = t.plainText := by simp [htype, hm]
      exact hplain ▸ .plain ht (Text.plainOf_plain t.text) (.inr hm)
    | some m =>
      have hboth : p.typeName = t.plainText ++ m.plainText := by simp [htype, hm]
      exact hboth ▸ .dimensions ht (Text.plainOf_plain t.text) hkind hm (Text.plainOf_plain m.text)
  · exact htype ▸ .plain ht (Text.plainOf_plain t.text) (.inl hkind)

/-! ## Other blanks -/

/-- One node is another one with other blanks in types, dimensions and packages.  The texts of other nodes are free,
since they may contain or be part of those, but for names; and all positions may have moved. -/
inductive Respaced : Node → Node → Prop
  -- the pairing is given as a relation of its own, since it depends on the parent
  | mk {n n' : Node} (R : Node → Node → Prop) (kind : n'.kind = n.kind)
      (named : n'.info.named = n.info.named) (label : n'.info.label = n.info.label)
      (children : List.Forall₂ R n.children n'.children) (below : ∀ c c', R c c' → Respaced c c')
      (name : ∀ c c', R c c' → BearsName n → c.info.label = some "name" → c'.text = c.text)
      (words : ∀ c c', R c c' → IsWorded n c ∨ TypeNode n c → Text.Respaced c.text.toList c'.text.toList) :
      Respaced n n'

theorem Respaced.kind_eq {n n' : Node} (h : Respaced n n') : n'.kind = n.kind := by
  cases h with
  | mk R kind => exact kind

theorem Respaced.named_eq {n n' : Node} (h : Respaced n n') : n'.info.named = n.info.named := by
  cases h with
  | mk R _ named => exact named

theorem Respaced.label_eq {n n' : Node} (h : Respaced n n') : n'.info.label = n.info.label := by
  cases h with
  | mk R _ _ label => exact label

/-- A child of a node, and the same with other blanks. -/
structure RespacedChild (n c c' : Node) : Prop extends Child Respaced n c c' where
  type : TypeNode n c → c'.plainText = c.plainText

theorem Respaced.children {n n' : Node} (h : Respaced n n') :
    List.Forall₂ (RespacedChild n) n.children n'.children := by
  obtain ⟨R, -, -, -, hchildren, hbelow, hname, hwords⟩ := h
  refine hchildren.imp fun c c' hpair => ⟨⟨hbelow c c' hpair, hname c c' hpair, fun hc => ?_⟩, fun hc => ?_⟩
  · exact Text.plain_respaced (hwords c c' hpair (.inl hc))
  · exact Text.plain_respaced (hwords c c' hpair (.inr hc))

theorem rel_head?_of_forall₂ {α β : Type} {R : α → β → Prop} {xs : List α} {ys : List β}
    (h : List.Forall₂ R xs ys) : Option.Rel R xs.head? ys.head? := by
  cases h with
  | nil => exact .none
  | cons hhead _ => exact .some hhead

/-- The type of a parameter that takes any number of values, where it has no label. -/
theorem Respaced.map_besides {n n' : Node} (h : Respaced n n') (hkind : n.kind = "spread_parameter")
    (hnone : n.labelled? "type" = none) :
    (besides n').head?.map (·.plainText) = (besides n).head?.map (·.plainText) := by
  have hnamed : List.Forall₂ (RespacedChild n) n.namedChildren n'.namedChildren :=
    List.rel_filter (fun c c' hpair => by simp only [hpair.rel.named_eq]) h.children
  have hbesides : List.Forall₂ (RespacedChild n) (besides n) (besides n') :=
    List.rel_filter (fun c c' hpair => by simp only [hpair.rel.kind_eq]) hnamed
  refine map_eq_of_rel (rel_head?_of_forall₂ hbesides) fun t ht t' _ hpair => hpair.type ?_
  rw [besides, List.head?_filter] at ht
  exact .inr ⟨hkind, hnone, ht⟩

/-- A source with other blanks is read as before. -/
theorem rereading_respaced : Rereading Respaced where
  kind h := h.kind_eq
  named h := h.named_eq
  label h := h.label_eq
  children h := .of_forall₂ (h.children.imp fun _ _ hpair => hpair.toChild)
  besides h hkind hnone := h.map_besides hkind hnone

/-- Both have the same unit. -/
theorem unitOf_respaced {root root' : Node} (h : Respaced root root') (path : String) :
    unitOf path root' = unitOf path root := by
  rw [unitOf, unitOf, rereading_respaced.package?_eq h, rereading_respaced.types_eq h]

theorem Respaced.refl (n : Node) : Respaced n n :=
  .mk (fun c c' => c ∈ n.children ∧ c' = c) rfl rfl rfl
    (List.forall₂_same.mpr fun _ hc => ⟨hc, rfl⟩) (fun c _ ⟨_, heq⟩ => heq ▸ Respaced.refl c)
    (fun _ _ ⟨_, heq⟩ _ _ => congrArg Node.text heq)
    (fun c _ ⟨_, heq⟩ _ => heq ▸ Text.Respaced.refl c.text.toList)
termination_by sizeOf n
decreasing_by exact Node.sizeOf_lt_of_mem_children ‹_›

/-- A node with other blanks all over, but not in names. -/
structure Reset (c c' : Node) : Prop where
  respaced : Respaced c c'
  text : Text.Respaced c.text.toList c'.text.toList
  name : c.info.label = some "name" → c'.text = c.text

theorem Reset.refl (n : Node) : Reset n n := ⟨.refl n, .refl n.text.toList, fun _ => rfl⟩

theorem reset_mk {i : Node.Info} {s : String} {cs cs' : List Node} (hs : Text.Respaced i.text.toList s.toList)
    (hname : i.label = some "name" → s = i.text) (h : List.Forall₂ Reset cs cs') :
    Reset (.mk i cs) (.mk { i with text := s } cs') :=
  ⟨.mk Reset rfl rfl rfl h (fun _ _ hpair => hpair.respaced) (fun _ _ hpair _ => hpair.name)
    fun _ _ hpair _ => hpair.text, hs, hname⟩

theorem reset_children {i : Node.Info} {cs cs' : List Node} (h : List.Forall₂ Reset cs cs') :
    Reset (.mk i cs) (.mk i cs') :=
  reset_mk (.refl i.text.toList) (fun _ => rfl) h

theorem reset_bodied {kind name : String} {cs cs' : List Node} (h : List.Forall₂ Reset cs cs') :
    Reset (bodied kind name cs) (bodied kind name cs') :=
  reset_children (.cons (.refl _) (.cons (reset_children h) .nil))

/-! ## Where types come from -/

theorem postorder_subset_of_mem_memberNodes {h : Host} {n m : Node} (hm : m ∈ memberNodes h n) :
    m.postorder ⊆ n.postorder := by
  unfold memberNodes at hm
  split at hm
  · cases hm
  · next body hbody =>
    have hsub := Node.postorder_subset_of_mem_children (Node.mem_children_of_labelled? hbody)
    split at hm
    · obtain ⟨ds, hds, hmds⟩ := List.mem_flatMap.mp hm
      have hds := Node.postorder_subset_of_mem_children
        (Node.mem_children_of_mem_namedChildren (List.mem_filter.mp hds).1)
      have hmds := Node.postorder_subset_of_mem_children (Node.mem_children_of_mem_namedChildren hmds)
      exact fun x hx => hsub (hds (hmds hx))
    · have hm := Node.postorder_subset_of_mem_children (Node.mem_children_of_mem_namedChildren hm)
      exact fun x hx => hsub (hm hx)

/-- A type is the declaration of a node.  What holds of the qualifier at the top, and goes over from a declaration to
its members, holds of its qualifier. -/
theorem exists_declaration_of_mem_typesOf {Q : Option String → Prop} {q : Option String} {n : Node}
    (hstep : ∀ m ∈ n.postorder, BearsName m → ∀ name ∈ m.name?, ∀ q, Q q → Q (some (qualify q name)))
    (hq : Q q) {d : TypeDecl} (hd : d ∈ typesOf q n) :
    ∃ m ∈ n.postorder, BearsName m ∧ ∃ h, ∃ name ∈ m.name?, ∃ q', Q q' ∧ d = declaration h name q' m := by
  induction q, n using typesOf.induct with
  | case1 q n h name hname hhost ih =>
    have hn : BearsName n := bearsName_of_isDeclaration (isDeclaration_iff.mpr ⟨h, name, hhost, hname⟩).1
    rw [typesOf_of_declares hhost hname] at hd
    obtain rfl | hd := List.mem_cons.mp hd
    · exact ⟨n, n.self_mem_postorder, hn, h, name, hname, q, hq, rfl⟩
    · obtain ⟨c, hc, hd⟩ := List.mem_flatMap.mp hd
      have hsub := postorder_subset_of_mem_memberNodes hc
      obtain ⟨m, hm, hrest⟩ := ih c hc (fun m hm => hstep m (hsub hm))
        (hstep n n.self_mem_postorder hn name hname q hq) hd
      exact ⟨m, hsub hm, hrest⟩
  | case2 q n hnot =>
    rw [typesOf_of_not_isDeclaration (not_isDeclaration_of_forall hnot)] at hd
    cases hd

theorem exists_declaration_of_mem_types {Q : Option String → Prop} {root : Node} {package : Option String}
    (hstep : ∀ m ∈ root.postorder, BearsName m → ∀ name ∈ m.name?, ∀ q, Q q → Q (some (qualify q name)))
    (hpackage : Q package) {d : TypeDecl} (hd : d ∈ types root package) :
    ∃ m ∈ root.postorder, BearsName m ∧ ∃ h, ∃ name ∈ m.name?, ∃ q, Q q ∧ d = declaration h name q m := by
  obtain ⟨n, hn, hd⟩ := List.mem_flatMap.mp hd
  have hsub := Node.postorder_subset_of_mem_children (Node.mem_children_of_mem_namedChildren hn)
  obtain ⟨m, hm, hrest⟩ := exists_declaration_of_mem_typesOf (fun m hm => hstep m (hsub hm)) hpackage hd
  exact ⟨m, hsub hm, hrest⟩

theorem constructors_declaration (h : Host) (name : String) (q : Option String) (n : Node) :
    (declaration h name q n).members.constructors =
      ((memberNodes h n).filter (·.kind == "constructor_declaration")).filterMap (constructor? h) := by
  cases h <;> rfl

/-- The name and the parameters of a constructor are those of nodes below its type. -/
theorem nodes_of_mem_constructors {h : Host} {name : String} {q : Option String} {n : Node} {c : Constructor}
    (hc : c ∈ (declaration h name q n).members.constructors) :
    (∃ m ∈ n.postorder, BearsName m ∧ m.name? = some c.name) ∧
      ∀ p ∈ c.parameters, ∃ m ∈ n.postorder, parameter? m = some p := by
  rw [constructors_declaration] at hc
  obtain ⟨m, hm, hread⟩ := List.mem_filterMap.mp hc
  obtain ⟨hm, hkind⟩ := List.mem_filter.mp hm
  have hsub : m.postorder ⊆ n.postorder := postorder_subset_of_mem_memberNodes hm
  obtain ⟨own, hown, rfl⟩ := Option.map_eq_some_iff.mp hread
  constructor
  · exact ⟨m, hsub m.self_mem_postorder, bearsName_of_kind (by simpa using hkind) (by decide), hown⟩
  · intro p hp
    dsimp only at hp
    cases hps : m.labelled? "parameters" with
    | none => simp [hps] at hp
    | some ps =>
      rw [hps, Option.map_some, Option.getD_some] at hp
      obtain ⟨x, hx, hread⟩ := List.mem_filterMap.mp hp
      have hps := Node.postorder_subset_of_mem_children (Node.mem_children_of_labelled? hps)
      have hx := Node.postorder_subset_of_mem_children (Node.mem_children_of_mem_namedChildren hx)
      exact ⟨x, hsub (hps (hx x.self_mem_postorder)), hread⟩

/-! ## Extracted texts -/

theorem spelled_unitOf (path : String) (root : Node) : Spelled root (unitOf path root) := by
  constructor
  · intro p hp
    obtain ⟨n, hn, hp⟩ := Option.bind_eq_some_iff.mp hp
    obtain ⟨c, hc, rfl⟩ := Option.map_eq_some_iff.mp hp
    have hplain : PlainOf c.text c.plainText := Text.plainOf_plain c.text
    refine ⟨hplain.flat, n, List.mem_of_find?_eq_some hn, c, List.mem_of_find?_eq_some hc, ?_, ?_, hplain⟩
    · have hkind := List.find?_some hn
      simpa using hkind
    · have hkind := List.find?_some hc
      simpa using hkind
  · intro d hd c hc p hp
    obtain ⟨n, hn, -, h, name, -, q, -, rfl⟩ :=
      exists_declaration_of_mem_types (Q := fun _ => True) (by simp) trivial hd
    obtain ⟨x, hx, hread⟩ := (nodes_of_mem_constructors hc).2 p hp
    have hspells : SpellsType x p.typeName := spellsType_of_parameter? hread
    exact ⟨hspells.flat, x, Node.postorder_subset_of_mem hn hx, hspells⟩

/-- A character is in no name of a source. -/
def NamesLack (b : Char) (root : Node) : Prop :=
  ∀ n ∈ root.postorder, BearsName n → ∀ name ∈ n.name?, b ∉ name.toList

/-- A character is in no text that is reported of a type. -/
structure TextsLack (b : Char) (d : TypeDecl) : Prop where
  qualifiedName : b ∉ d.qualifiedName.toList
  signature : ∀ c ∈ d.members.constructors, b ∉ c.signature.toList

instance (b : Char) (root : Node) : Decidable (NamesLack b root) :=
  inferInstanceAs (Decidable (∀ n ∈ root.postorder, BearsName n → ∀ name ∈ n.name?, b ∉ name.toList))

section Lack

variable {b : Char} (hblank : isBlank b = true) (hb : b ≠ ' ')

include hblank hb

theorem notMem_qualify {q : Option String} {name : String} (hq : ∀ x ∈ q, b ∉ x.toList)
    (hname : b ∉ name.toList) : b ∉ (qualify q name).toList := by
  unfold qualify
  split
  · next x =>
    have hdot : b ∉ ".".toList := (Text.flat_of_all (by decide)).notMem hblank hb
    split
    · exact hname
    · simp only [String.toList_append, List.mem_append, not_or]
      exact ⟨⟨hq x rfl, hdot⟩, hname⟩
  · exact hname

theorem notMem_signature {c : Constructor} (hname : b ∉ c.name.toList)
    (htypes : ∀ p ∈ c.parameters, Flat p.typeName) : b ∉ c.signature.toList := by
  have hfixed {s : String} (hs : Flat s) : b ∉ s.toList := hs.notMem hblank hb
  have hparameters : ∀ x ∈ c.parameters.map Parameter.inSignature, b ∉ x.toList := by
    intro x hx
    obtain ⟨p, hp, rfl⟩ := List.mem_map.mp hx
    unfold Parameter.inSignature
    split
    · exact hfixed ((htypes p hp).append (Text.flat_of_all (by decide)))
    · exact hfixed (htypes p hp)
  have hjoined := Text.notMem_intercalate (hfixed (Text.flat_of_all (s := ", ") (by decide))) hparameters
  simp only [Constructor.signature, String.toList_append, List.mem_append, not_or]
  exact ⟨⟨⟨hname, hfixed (Text.flat_of_all (by decide))⟩, hjoined⟩, hfixed (Text.flat_of_all (by decide))⟩

/-- A blank that is in no name of a source is in no text of its types either, unless it is a space. -/
theorem textsLack_of_mem_unitOf {root : Node} (hnames : NamesLack b root) {path : String} {d : TypeDecl}
    (hd : d ∈ (unitOf path root).types) : TextsLack b d := by
  have hspelled : Spelled root (unitOf path root) := spelled_unitOf path root
  have hpackage : ∀ p ∈ package? root, b ∉ p.toList := fun p hp =>
    (hspelled.package p hp).1.notMem hblank hb
  have hstep : ∀ m ∈ root.postorder, BearsName m → ∀ name ∈ m.name?, ∀ q : Option String,
      (∀ x ∈ q, b ∉ x.toList) → ∀ x ∈ some (qualify q name), b ∉ x.toList := by
    rintro m hm hbears name hname q hq _ ⟨⟩
    exact notMem_qualify hblank hb hq (hnames m hm hbears name hname)
  constructor
  · obtain ⟨m, hm, hbears, h, name, hname, q, hq, rfl⟩ := exists_declaration_of_mem_types hstep hpackage hd
    rw [qualifiedName_declaration]
    exact notMem_qualify hblank hb hq (hnames m hm hbears name hname)
  · intro c hc
    have htypes : ∀ p ∈ c.parameters, Flat p.typeName := fun p hp => (hspelled.parameters d hd c hc p hp).1
    obtain ⟨m, hm, -, h, name, -, q, -, rfl⟩ := exists_declaration_of_mem_types hstep hpackage hd
    obtain ⟨n, hn, hbears, hname⟩ := (nodes_of_mem_constructors hc).1
    have hname : b ∉ c.name.toList :=
      hnames n (Node.postorder_subset_of_mem hm hn) hbears c.name hname
    exact notMem_signature hblank hb hname htypes

end Lack

end TypeCensus.Java
