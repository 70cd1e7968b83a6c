import TypeCensus.Proofs.Java.Preorder

/-!
# Rereading — sources that are read alike

Declarations are found by kinds and labels, and of the texts only names, types, dimensions and packages are read.  Two
sources that agree on these hold the same types, whatever else they say, and also where one of them has comments that
the other one lacks: a comment is a named child without a label, of a kind that is not looked for.

* `Woven.filter`, `Woven.rel_head?`, `Woven.flatMap_eq`: what comments do to a search among children.
* `Rereading`: what a relation has to keep of a node and of its children.
* `Rereading.package?_eq`, `Rereading.types_eq`: then the package and the types are the same.
-/

namespace TypeCensus.Java

open TypeCensus.Syntax (Node)

/-! ## Comments among children -/

/-- The kinds of comments. -/
def commentKinds : List String := ["line_comment", "block_comment"]

/-- A comment, as it stands in a tree. -/
structure IsComment (c : Node) : Prop where
  kind : c.kind ∈ commentKinds
  named : c.info.named = true
  label : c.info.label = none

/-- The nodes of two lists are paired in order, and what is left over in the second list are comments. -/
inductive Woven (R : Node → Node → Prop) : List Node → List Node → Prop
  | nil : Woven R [] []
  | pair {c c' : Node} {cs cs' : List Node} (hpair : R c c') (hrest : Woven R cs cs') :
      Woven R (c :: cs) (c' :: cs')
  | comment {c : Node} {cs cs' : List Node} (hcomment : IsComment c) (hrest : Woven R cs cs') :
      Woven R cs (c :: cs')

theorem IsComment.kind_ne {c : Node} (h : IsComment c) {kind : String} (hkind : kind ∉ commentKinds) :
    c.kind ≠ kind :=
  fun heq => hkind (heq ▸ h.kind)

theorem IsComment.not_isDeclaration {c : Node} (h : IsComment c) : ¬ IsDeclaration c := by
  rintro ⟨hkind, -⟩
  have hkinds : ∀ k ∈ ["class_declaration", "interface_declaration", "enum_declaration"],
      k ∉ commentKinds := by decide
  exact hkinds c.kind hkind h.kind

namespace Woven

variable {R S : Node → Node → Prop} {cs cs' : List Node}

theorem imp_of_mem (h : Woven R cs cs') (hRS : ∀ c c', c' ∈ cs' → R c c' → S c c') : Woven S cs cs' := by
  induction h with
  | nil => exact .nil
  | pair hpair _ ih =>
    exact .pair (hRS _ _ (by simp) hpair) (ih fun c c' hc' => hRS c c' (List.mem_cons_of_mem _ hc'))
  | comment hcomment _ ih =>
    exact .comment hcomment (ih fun c c' hc' => hRS c c' (List.mem_cons_of_mem _ hc'))

theorem append {ds ds' : List Node} (h : Woven R cs cs') (hd : Woven R ds ds') :
    Woven R (cs ++ ds) (cs' ++ ds') := by
  induction h with
  | nil => exact hd
  | pair hpair _ ih => exact .pair hpair ih
  | comment hcomment _ ih => exact .comment hcomment ih

theorem of_refl (h : ∀ c ∈ cs, R c c) : Woven R cs cs := by
  induction cs with
  | nil => exact .nil
  | cons c cs ih => exact .pair (h c (by simp)) (ih fun d hd => h d (List.mem_cons_of_mem c hd))

theorem of_forall₂ (h : List.Forall₂ R cs cs') : Woven R cs cs' := by
  induction h with
  | nil => exact .nil
  | cons hpair _ ih => exact .pair hpair ih

theorem of_comments (h : ∀ c ∈ cs, IsComment c) : Woven R [] cs := by
  induction cs with
  | nil => exact .nil
  | cons c cs ih => exact .comment (h c (by simp)) (ih fun d hd => h d (List.mem_cons_of_mem c hd))

/-- Lists stay woven where pairs are taken or left together. -/
theorem filter (h : Woven R cs cs') {p : Node → Bool} (hp : ∀ c c', R c c' → p c' = p c) :
    Woven R (cs.filter p) (cs'.filter p) := by
  induction h with
  | nil => exact .nil
  | @pair c c' cs cs' hpair _ ih =>
    rw [List.filter_cons, List.filter_cons, hp c c' hpair]
    split
    · exact .pair hpair ih
    · exact ih
  | @comment c cs cs' hcomment _ ih =>
    rw [List.filter_cons]
    split
    · exact .comment hcomment ih
    · exact ih

/-- Unless a comment comes first, the first nodes are a pair. -/
theorem rel_head? (h : Woven R cs cs') (hhead : ∀ c ∈ cs'.head?, ¬ IsComment c) :
    Option.Rel R cs.head? cs'.head? := by
  cases h with
  | nil => exact .none
  | pair hpair _ => exact .some hpair
  | @comment c cs cs' hcomment _ => exact absurd hcomment (hhead c rfl)

/-- Comments that give nothing do not matter. -/
theorem flatMap_eq {α : Type} {f : Node → List α} (h : Woven R cs cs')
    (hf : ∀ c ∈ cs, ∀ c', R c c' → f c' = f c) (hnone : ∀ c ∈ cs', IsComment c → f c = []) :
    cs'.flatMap f = cs.flatMap f := by
  induction h with
  | nil => rfl
  | @pair c c' cs cs' hpair _ ih =>
    have hrest := ih (fun d hd => hf d (List.mem_cons_of_mem c hd))
      fun d hd => hnone d (List.mem_cons_of_mem c' hd)
    rw [List.flatMap_cons, List.flatMap_cons, hf c (by simp) c' hpair, hrest]
  | @comment c cs cs' hcomment _ ih =>
    have hrest := ih hf fun d hd => hnone d (List.mem_cons_of_mem c hd)
    rw [List.flatMap_cons, hnone c (by simp) hcomment, List.nil_append, hrest]

theorem filterMap_eq {α : Type} {f : Node → Option α} (h : Woven R cs cs')
    (hf : ∀ c c', R c c' → f c' = f c) (hnone : ∀ c ∈ cs', IsComment c → f c = none) :
    cs'.filterMap f = cs.filterMap f := by
  rw [List.filterMap_eq_flatMap_toList, List.filterMap_eq_flatMap_toList]
  refine h.flatMap_eq (fun c _ c' hpair => ?_) fun c hc hcomment => ?_
  · rw [hf c c' hpair]
  · rw [hnone c hc hcomment]
    rfl

/-- What is woven piece by piece is woven as a whole. -/
theorem flatMap {f : Node → List Node} (h : Woven R cs cs')
    (hf : ∀ c c', R c c' → Woven S (f c) (f c')) (hnot : ∀ c ∈ cs', ¬ IsComment c) :
    Woven S (cs.flatMap f) (cs'.flatMap f) := by
  induction h with
  | nil => exact .nil
  | pair hpair _ ih =>
    exact (hf _ _ hpair).append (ih fun c hc => hnot c (List.mem_cons_of_mem _ hc))
  | @comment c cs cs' hcomment _ _ => exact absurd hcomment (hnot c (by simp))

end Woven

/-! ## What is read of a node -/

/-- What stands in a parameter besides its modifiers and its declarator. -/
def besides (n : Node) : List Node :=
  n.namedChildren.filter fun c => c.kind != "modifiers" && c.kind != "variable_declarator"

/-- The kinds of nodes whose names are read. -/
def namingKinds : List String :=
  ["class_declaration", "interface_declaration", "enum_declaration", "enum_constant", "constructor_declaration",
    "method_declaration", "formal_parameter", "spread_parameter", "variable_declarator"]

/-- A node whose name is read. -/
def BearsName (n : Node) : Prop := n.kind ∈ namingKinds ∨ n.info.label = some "declarator"

/-- A child whose words are read: the type or the dimensions of a parameter, or the name of a package. -/
inductive IsWorded (n c : Node) : Prop
  | labelled (hn : n.kind ∈ ["formal_parameter", "spread_parameter"])
      (hc : c.info.label ∈ [some "type", some "dimensions"])
  | package (hn : n.kind = "package_declaration") (hc : c.kind ∈ ["scoped_identifier", "identifier"])

/-- Two children of nodes that are read alike are related, and so are their texts where they are read. -/
structure Child (S : Node → Node → Prop) (n c c' : Node) : Prop where
  rel : S c c'
  name : BearsName n → c.info.label = some "name" → c'.text = c.text
  words : IsWorded n c → c'.plainText = c.plainText

/-- Related nodes are read alike. -/
structure Rereading (S : Node → Node → Prop) : Prop where
  kind : ∀ {n n' : Node}, S n n' → n'.kind = n.kind
  named : ∀ {n n' : Node}, S n n' → n'.info.named = n.info.named
  label : ∀ {n n' : Node}, S n n' → n'.info.label = n.info.label
  children : ∀ {n n' : Node}, S n n' → Woven (Child S n) n.children n'.children
  /-- The type of a parameter that takes any number of values may have no label. -/
  besides : ∀ {n n' : Node}, S n n' → n.kind = "spread_parameter" → n.labelled? "type" = none →
    (besides n').head?.map (·.plainText) = (besides n).head?.map (·.plainText)

instance (n : Node) : Decidable (BearsName n) := inferInstanceAs (Decidable (_ ∨ _))

theorem bearsName_of_kind {n : Node} {kind : String} (h : n.kind = kind) (hkind : kind ∈ namingKinds) :
    BearsName n :=
  .inl (h ▸ hkind)

theorem not_isDeclaration_of_forall {n : Node}
    (h : ∀ host name, hostOf? n = some host → n.name? = some name → False) : ¬ IsDeclaration n := by
  rw [isDeclaration_iff]
  rintro ⟨host, name, hhost, hname⟩
  exact h host name hhost hname

theorem bearsName_of_isDeclaration {n : Node}
    (h : n.kind ∈ ["class_declaration", "interface_declaration", "enum_declaration"]) : BearsName n := by
  have hkinds : ["class_declaration", "interface_declaration", "enum_declaration"] ⊆ namingKinds := by decide
  exact .inl (hkinds h)

theorem map_eq_of_rel {α : Type} {R : Node → Node → Prop} {f : Node → α} {a b : Option Node}
    (h : Option.Rel R a b) (hf : ∀ c ∈ a, ∀ c' ∈ b, R c c' → f c' = f c) : b.map f = a.map f := by
  cases h with
  | some hrel => exact congrArg some (hf _ rfl _ rfl hrel)
  | none => rfl

theorem bind_eq_of_rel {α : Type} {R : Node → Node → Prop} {f : Node → Option α} {a b : Option Node}
    (h : Option.Rel R a b) (hf : ∀ c ∈ a, ∀ c', R c c' → f c' = f c) : b.bind f = a.bind f := by
  cases h with
  | some hrel => exact hf _ rfl _ hrel
  | none => rfl

theorem not_isComment_of_mem_labelled {n c : Node} {label : String} (hc : c ∈ n.labelled label) :
    ¬ IsComment c := by
  intro h
  have hlabel := (List.mem_filter.mp hc).2
  simp [h.label] at hlabel

theorem not_isComment_of_mem_filter {cs : List Node} {c : Node} {p : String → Bool}
    (hp : ∀ k ∈ commentKinds, p k = false) (hc : c ∈ cs.filter (p ·.kind)) : ¬ IsComment c := by
  intro h
  have hkind := (List.mem_filter.mp hc).2
  simp [hp c.kind h.kind] at hkind

/-- A comment is no keyword. -/
theorem add_comment (m : Modifiers) {c : Node} (h : IsComment c) : m.add c.kind = m := by
  have hkind := h.kind
  simp only [commentKinds, List.mem_cons, List.not_mem_nil, or_false] at hkind
  rcases hkind with hkind | hkind <;> simp [Modifiers.add, Modifiers.visibilityOf?, hkind]

namespace Rereading

variable {S : Node → Node → Prop} (hS : Rereading S) {n n' : Node}

include hS

/-! ## Finding a child -/

theorem namedChildren (h : S n n') : Woven (Child S n) n.namedChildren n'.namedChildren :=
  (hS.children h).filter fun _ _ hpair => hS.named hpair.rel

theorem labelled (h : S n n') (label : String) : Woven (Child S n) (n.labelled label) (n'.labelled label) :=
  (hS.children h).filter fun _ _ hpair => by rw [hS.label hpair.rel]

/-- A label leads to the same child. -/
theorem labelled? (h : S n n') (label : String) :
    Option.Rel (Child S n) (n.labelled? label) (n'.labelled? label) :=
  (hS.labelled h label).rel_head? fun _ hc =>
    not_isComment_of_mem_labelled (List.mem_of_mem_head? hc)

/-- The first child of some kinds, which are not those of comments, is the same. -/
theorem find? (h : S n n') {p : String → Bool} (hp : ∀ k ∈ commentKinds, p k = false) :
    Option.Rel (Child S n) (n.namedChildren.find? (p ·.kind)) (n'.namedChildren.find? (p ·.kind)) := by
  rw [← List.head?_filter, ← List.head?_filter]
  refine ((hS.namedChildren h).filter fun _ _ hpair => ?_).rel_head? fun c hc => ?_
  · rw [hS.kind hpair.rel]
  · exact not_isComment_of_mem_filter hp (List.mem_of_mem_head? hc)

/-- What is read off the nodes of some kinds, which are not those of comments, is the same. -/
theorem flatMap_filter_eq {cs cs' : List Node} (h : Woven S cs cs') {p : String → Bool}
    (hp : ∀ k ∈ commentKinds, p k = false) {α : Type} {f : Node → List α}
    (hf : ∀ c c', p c.kind = true → S c c' → f c' = f c) :
    (cs'.filter (p ·.kind)).flatMap f = (cs.filter (p ·.kind)).flatMap f := by
  refine (h.filter fun c c' hpair => ?_).flatMap_eq (fun c hc c' => ?_) fun c hc hcomment => ?_
  · rw [hS.kind hpair]
  · exact hf c c' (List.mem_filter.mp hc).2
  · exact absurd hcomment (not_isComment_of_mem_filter hp hc)

theorem filterMap_filter_eq {cs cs' : List Node} (h : Woven S cs cs') {p : String → Bool}
    (hp : ∀ k ∈ commentKinds, p k = false) {α : Type} {f : Node → Option α}
    (hf : ∀ c c', p c.kind = true → S c c' → f c' = f c) :
    (cs'.filter (p ·.kind)).filterMap f = (cs.filter (p ·.kind)).filterMap f := by
  rw [List.filterMap_eq_flatMap_toList, List.filterMap_eq_flatMap_toList]
  exact hS.flatMap_filter_eq h hp fun c c' hc hpair => by rw [hf c c' hc hpair]

/-! ## Names, packages and modifiers -/

theorem name?_eq (h : S n n') (hn : BearsName n) : n'.name? = n.name? := by
  refine map_eq_of_rel (hS.labelled? h "name") fun c hc c' _ hpair => hpair.name hn ?_
  have hlabel := (List.mem_filter.mp (List.mem_of_mem_head? hc)).2
  exact beq_iff_eq.mp hlabel

/-- The words of a child that is found by its label are the same. -/
theorem map_plainText_labelled? (h : S n n') (hn : n.kind ∈ ["formal_parameter", "spread_parameter"])
    (label : String) (hlabel : some label ∈ [some "type", some "dimensions"]) :
    (n'.labelled? label).map (·.plainText) = (n.labelled? label).map (·.plainText) := by
  refine map_eq_of_rel (hS.labelled? h label) fun c hc c' _ hpair => hpair.words (.labelled hn ?_)
  have hc := (List.mem_filter.mp (List.mem_of_mem_head? hc)).2
  rwa [beq_iff_eq.mp hc]

theorem package?_eq (h : S n n') : package? n' = package? n := by
  have hname {p p' : Node} (hp : S p p') (hkind : p.kind = "package_declaration") :
      (p'.namedChildren.find? fun n => n.kind == "scoped_identifier" || n.kind == "identifier").map
          (·.plainText) =
        (p.namedChildren.find? fun n => n.kind == "scoped_identifier" || n.kind == "identifier").map
          (·.plainText) := by
    have hrel := hS.find? hp (p := fun k => k == "scoped_identifier" || k == "identifier") (by decide)
    refine map_eq_of_rel hrel fun c hc c' _ hpair => hpair.words (.package hkind ?_)
    have hfound := List.find?_some hc
    simpa using hfound
  have hrel := hS.find? h (p := fun k => k == "package_declaration") (by decide)
  refine bind_eq_of_rel hrel fun p hp p' hpair => hname hpair.rel ?_
  have hfound := List.find?_some hp
  simpa using hfound

theorem foldl_add_eq {cs cs' : List Node} (h : Woven (Child S n) cs cs') (m : Modifiers) :
    (cs'.map (·.kind)).foldl Modifiers.add m = (cs.map (·.kind)).foldl Modifiers.add m := by
  induction h generalizing m with
  | nil => rfl
  | pair hpair _ ih =>
    rw [List.map_cons, List.map_cons, List.foldl_cons, List.foldl_cons, hS.kind hpair.rel, ih]
  | comment hcomment _ ih => rw [List.map_cons, List.foldl_cons, add_comment m hcomment, ih]

theorem modifiers_eq (h : S n n') : Modifiers.ofNode n' = Modifiers.ofNode n := by
  have hmap (n : Node) : Modifiers.ofNode n =
      ((n.namedChildren.find? (·.kind == "modifiers")).map fun m =>
        (m.children.map (·.kind)).foldl Modifiers.add {}).getD {} := by
    rw [Modifiers.ofNode]
    cases n.namedChildren.find? (·.kind == "modifiers") <;> rfl
  have hrel := hS.find? h (p := fun k => k == "modifiers") (by decide)
  rw [hmap, hmap,
    map_eq_of_rel hrel fun m _ m' _ hpair => hS.foldl_add_eq (hS.children hpair.rel) {}]

/-! ## Parameters -/

theorem ordinaryParameter?_eq (h : S n n') (hkind : n.kind = "formal_parameter") :
    ordinaryParameter? n' = ordinaryParameter? n := by
  have hread (n : Node) : ordinaryParameter? n =
      ((n.labelled? "type").map (·.plainText)).map fun typeName =>
        ⟨typeName ++ ((n.labelled? "dimensions").map (·.plainText)).getD "", n.name?.getD "", false⟩ := by
    rw [Option.map_map]
    rfl
  have hn : n.kind ∈ ["formal_parameter", "spread_parameter"] := by simp [hkind]
  rw [hread, hread, hS.name?_eq h (bearsName_of_kind hkind (by decide)),
    hS.map_plainText_labelled? h hn "type" (by simp),
    hS.map_plainText_labelled? h hn "dimensions" (by simp)]

/-- The type of a parameter that takes any number of values has the same words, with a label or without. -/
theorem spreadType_eq (h : S n n') (hkind : n.kind = "spread_parameter") :
    ((n'.labelled? "type").or (Java.besides n').head?).map (·.plainText) =
      ((n.labelled? "type").or (Java.besides n).head?).map (·.plainText) := by
  have hlabelled := hS.map_plainText_labelled? h (by simp [hkind]) "type" (by simp)
  rw [Option.map_or, Option.map_or, hlabelled]
  cases htype : n.labelled? "type" with
  | none => rw [hS.besides h hkind htype]
  | some t => rfl

theorem spreadParameter?_eq (h : S n n') (hkind : n.kind = "spread_parameter") :
    spreadParameter? n' = spreadParameter? n := by
  have hread (n : Node) : spreadParameter? n =
      (((n.labelled? "type").or (Java.besides n).head?).map (·.plainText)).map fun typeName =>
        ⟨typeName, (((n.namedChildren.find? (·.kind == "variable_declarator")).bind Node.name?).or
          n.name?).getD "", true⟩ := by
    simp [spreadParameter?, Java.besides, List.head?_filter, Function.comp_def]
  have hrel := hS.find? h (p := fun k => k == "variable_declarator") (by decide)
  have hdeclarator := bind_eq_of_rel hrel fun c hc _ hpair => by
    have hfound := List.find?_some hc
    exact hS.name?_eq hpair.rel (bearsName_of_kind (by simpa using hfound) (by decide))
  rw [hread, hread, hdeclarator, hS.name?_eq h (bearsName_of_kind hkind (by decide)),
    hS.spreadType_eq h hkind]

theorem parameter?_eq (h : S n n') : parameter? n' = parameter? n := by
  unfold parameter?
  rw [hS.kind h]
  split
  · next hkind => exact hS.ordinaryParameter?_eq h hkind
  · next hkind => exact hS.spreadParameter?_eq h hkind
  · rfl

theorem parameters_eq (h : S n n') :
    ((n'.labelled? "parameters").map fun ps => ps.namedChildren.filterMap parameter?) =
      (n.labelled? "parameters").map fun ps => ps.namedChildren.filterMap parameter? := by
  refine map_eq_of_rel (hS.labelled? h "parameters") fun ps _ ps' _ hpair => ?_
  refine (hS.namedChildren hpair.rel).filterMap_eq (fun c c' hc => hS.parameter?_eq hc.rel) ?_
  intro c _ hcomment
  unfold parameter?
  split
  · next hkind => exact absurd hkind (hcomment.kind_ne (by decide))
  · next hkind => exact absurd hkind (hcomment.kind_ne (by decide))
  · rfl

/-! ## Members -/

theorem constructor?_eq (h : S n n') (hn : BearsName n) (host : Host) :
    constructor? host n' = constructor? host n := by
  rw [constructor?, constructor?, hS.name?_eq h hn, hS.modifiers_eq h, hS.parameters_eq h]

theorem method?_eq (h : S n n') (hn : BearsName n) (host : Host) : method? host n' = method? host n := by
  rw [method?, method?, hS.name?_eq h hn, hS.modifiers_eq h]

theorem fields_eq (h : S n n') (host : Host) : fields host n' = fields host n := by
  rw [fields, fields, hS.modifiers_eq h, List.filterMap_eq_flatMap_toList, List.filterMap_eq_flatMap_toList]
  refine (hS.labelled h "declarator").flatMap_eq (fun c hc c' hpair => ?_) fun c hc hcomment => ?_
  · have hlabel := (List.mem_filter.mp hc).2
    rw [hS.name?_eq hpair.rel (.inr (beq_iff_eq.mp hlabel))]
  · exact absurd hcomment (not_isComment_of_mem_labelled hc)

theorem wovenNamed (h : S n n') : Woven S n.namedChildren n'.namedChildren :=
  (hS.namedChildren h).imp_of_mem fun _ _ _ hpair => hpair.rel

/-- The nodes that may declare members are the same, but for comments. -/
theorem wovenMembers (h : S n n') (host : Host) : Woven S (memberNodes host n) (memberNodes host n') := by
  have hbody := hS.labelled? h "body"
  unfold memberNodes
  generalize n.labelled? "body" = b, n'.labelled? "body" = b' at hbody ⊢
  cases hbody with
  | none => exact .nil
  | @some b b' hpair =>
    have hnamed := hS.wovenNamed hpair.rel
    dsimp only
    split
    · refine (hnamed.filter fun _ _ hc => ?_).flatMap (fun _ _ hc => hS.wovenNamed hc) fun c hc => ?_
      · rw [hS.kind hc]
      · exact not_isComment_of_mem_filter (p := fun k => k == "enum_body_declarations") (by decide) hc
    · exact hnamed

theorem entries_eq (h : S n n') : entries n' = entries n := by
  have hbody := hS.labelled? h "body"
  unfold entries
  generalize n.labelled? "body" = b, n'.labelled? "body" = b' at hbody ⊢
  cases hbody with
  | none => rfl
  | some hpair =>
    refine hS.filterMap_filter_eq (hS.wovenNamed hpair.rel) (p := fun k => k == "enum_constant") (by decide)
      fun c c' hc hcc => hS.name?_eq hcc (bearsName_of_kind (by simpa using hc) (by decide))

/-! ## Types -/

/-- A declaration is read as before. -/
theorem declaration_eq (h : S n n') (host : Host) (name : String) (q : Option String) :
    declaration host name q n' = declaration host name q n := by
  have hmembers := hS.wovenMembers h host
  have hconstructors := hS.filterMap_filter_eq hmembers (p := fun k => k == "constructor_declaration")
    (by decide) fun _ _ hc hcc =>
      hS.constructor?_eq hcc (bearsName_of_kind (by simpa using hc) (by decide)) host
  have hfields := hS.flatMap_filter_eq hmembers
    (p := fun k => k == "field_declaration" || k == "constant_declaration")
    (by decide) fun _ _ _ hcc => hS.fields_eq hcc host
  have hmethods := hS.filterMap_filter_eq hmembers (p := fun k => k == "method_declaration")
    (by decide) fun _ _ hc hcc => hS.method?_eq hcc (bearsName_of_kind (by simpa using hc) (by decide)) host
  unfold declaration
  simp only [hconstructors, hfields, hmethods, hS.entries_eq h]

theorem hostOf?_eq (h : S n n') : hostOf? n' = hostOf? n := by
  rw [hostOf?, hostOf?, hS.kind h]

theorem isDeclaration_iff_of_rel (h : S n n') : IsDeclaration n' ↔ IsDeclaration n := by
  rw [IsDeclaration, IsDeclaration, hS.kind h, and_congr_right_iff]
  intro hkind
  rw [hS.name?_eq h (bearsName_of_isDeclaration hkind)]

/-- The types in a node are the same. -/
theorem typesOf_eq (h : S n n') (q : Option String) : typesOf q n' = typesOf q n := by
  induction q, n using typesOf.induct generalizing n' with
  | case1 q n host name hname hhost ih =>
    have hn : BearsName n := bearsName_of_isDeclaration (isDeclaration_iff.mpr ⟨host, name, hhost, hname⟩).1
    rw [typesOf_of_declares hhost hname,
      typesOf_of_declares ((hS.hostOf?_eq h).trans hhost) ((hS.name?_eq h hn).trans hname), hS.declaration_eq h]
    refine congrArg _ ((hS.wovenMembers h host).flatMap_eq (fun c hc c' hpair => ih c hc hpair) ?_)
    exact fun c _ hcomment => typesOf_of_not_isDeclaration hcomment.not_isDeclaration _
  | case2 q n hnot =>
    have hn : ¬ IsDeclaration n := not_isDeclaration_of_forall hnot
    have hn' : ¬ IsDeclaration n' := mt (hS.isDeclaration_iff_of_rel h).mp hn
    rw [typesOf_of_not_isDeclaration hn, typesOf_of_not_isDeclaration hn']

theorem types_eq (h : S n n') (package : Option String) : types n' package = types n package :=
  (hS.wovenNamed h).flatMap_eq (fun _ _ _ hpair => hS.typesOf_eq hpair package)
    fun _ _ hcomment => typesOf_of_not_isDeclaration hcomment.not_isDeclaration package

end Rereading

end TypeCensus.Java
