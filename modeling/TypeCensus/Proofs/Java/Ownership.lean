import TypeCensus.Proofs.Java.Members

/-!
# Ownership — whose members are whose

Every member belongs to one declaration of a source, the innermost one around it.  The proof measures places: members
of one declaration all stand equally far below it, and a declaration inside another one is a member of it or lies
deeper.

* `eq_or_reach_le`: of two declarations, the one below is a member of the other or lies deeper.
* `owner_unique`: no node is an item of two declarations.
* `ItemAt.between`: between a declaration and its items stands only its own body.
* `members_of_own_body`: the lists of every type of a source describe its own body and nothing else.
-/

namespace TypeCensus.Java

open TypeCensus.Syntax (Node)

/-! ## Items -/

/-- What the lists of a type describe: a member of its body, or a constant. -/
def ItemAt (d : Node) (p : Place) (c : Node) : Prop := MemberAt d p c ∨ ConstantAt d p c

/-- How far below a declaration its members stand. -/
def reach (d : Node) : Nat := if d.kind = "enum_declaration" then 3 else 2

theorem NamedAt.unique {n c c' : Node} {i : Nat} (h : NamedAt n i c) (h' : NamedAt n i c') :
    c = c' :=
  Option.some.inj (h.1.symm.trans h'.1)

theorem MemberAt.length_eq {d c : Node} {p : Place} (h : MemberAt d p c) : p.length = reach d := by
  cases h with
  | body hd => simp [reach, hd]
  | enumBody hd => simp [reach, hd]

theorem MemberAt.unique {d c c' : Node} {p : Place} (h : MemberAt d p c) (h' : MemberAt d p c') :
    c = c' := by
  cases h with
  | body hd hb hc =>
    cases h' with
    | body hd' hb' hc' =>
      obtain ⟨-, rfl⟩ := LabelledAt.unique hb hb'
      exact hc.unique hc'
  | enumBody hd hb he hkind hc =>
    cases h' with
    | enumBody hd' hb' he' hkind' hc' =>
      obtain ⟨-, rfl⟩ := LabelledAt.unique hb hb'
      obtain rfl := he.unique he'
      exact hc.unique hc'

theorem ItemAt.ne_nil {d c : Node} {p : Place} (h : ItemAt d p c) : p ≠ [] := by
  rcases h with h | h
  · exact ne_nil_of_memberAt h
  · cases h with
    | mk => simp

theorem ItemAt.length_le {d c : Node} {p : Place} (h : ItemAt d p c) : p.length ≤ reach d := by
  rcases h with h | ⟨hd, -, -, -, -⟩
  · exact h.length_eq.le
  · simp [reach, hd]

/-! ## Only the own body in between -/

/-- The body of a declaration, or a declaration part in the body of an enum. -/
inductive OwnBodyAt (d : Node) : Place → Node → Prop where
  | body {i : Nat} {b : Node} (hb : BodyAt d i b) : OwnBodyAt d [i] b
  | part {i j : Nat} {b e : Node} (hd : d.kind = "enum_declaration") (hb : BodyAt d i b)
      (he : NamedAt b j e) (hkind : e.kind = "enum_body_declarations") : OwnBodyAt d [i, j] e

/-- Between a declaration and its items stands only its own body. -/
theorem ItemAt.between {d c : Node} {q r : Place} (h : ItemAt d (q ++ r) c) (hq : q ≠ [])
    (hr : r ≠ []) : ∃ b, OwnBodyAt d q b := by
  generalize hp : q ++ r = p at h
  obtain ⟨i, q, rfl⟩ := List.exists_cons_of_ne_nil hq
  rcases h with h | h
  · cases h with
    | @body i' j b _ hd hb hc =>
      -- a proper part of `[i, j]` is `[i]`
      simp only [List.cons_append, List.cons.injEq] at hp
      obtain ⟨rfl, hp⟩ := hp
      obtain ⟨rfl, -⟩ | ⟨-, rfl⟩ := List.append_eq_singleton_iff.mp hp
      · exact ⟨b, .body hb⟩
      · exact absurd rfl hr
    | @enumBody i' j k b e _ hd hb he hkind hc =>
      simp only [List.cons_append, List.cons.injEq] at hp
      obtain ⟨rfl, hp⟩ := hp
      cases q with
      | nil => exact ⟨b, .body hb⟩
      | cons j' q =>
        simp only [List.cons_append, List.cons.injEq] at hp
        obtain ⟨rfl, hp⟩ := hp
        obtain ⟨rfl, -⟩ | ⟨-, rfl⟩ := List.append_eq_singleton_iff.mp hp
        · exact ⟨e, .part hd hb he hkind⟩
        · exact absurd rfl hr
  · cases h with
    | @mk i' j b _ hd hb hc hkind hname =>
      simp only [List.cons_append, List.cons.injEq] at hp
      obtain ⟨rfl, hp⟩ := hp
      obtain ⟨rfl, -⟩ | ⟨-, rfl⟩ := List.append_eq_singleton_iff.mp hp
      · exact ⟨b, .body hb⟩
      · exact absurd rfl hr

/-! ## One owner -/

/-- Of two declarations, the one below the other is at least as far below as the other's members are. -/
theorem eq_or_reach_le {n : Node} {o o' : Occurrence} (ho : Declares n o) (ho' : Declares n o')
    {r : Place} (hr : o'.place = o.place ++ r) : o' = o ∨ reach o.node ≤ r.length := by
  induction ho generalizing o' with
  | self hd =>
    cases ho' with
    | self => exact .inl rfl
    | member _ hm _ =>
      right
      have hle := congrArg List.length hr
      simp only [Occurrence.within, List.nil_append, List.length_append, hm.length_eq] at hle
      exact hle ▸ Nat.le_add_right _ _
  | @member d c p o₁ hd hm ho₁ ih =>
    cases ho' with
    | self hd' =>
      have hp : p = [] := (List.append_eq_nil_iff.mp (List.append_eq_nil_iff.mp hr.symm).1).1
      exact absurd hp (ne_nil_of_memberAt hm)
    | @member _ c' p' o₂ hd' hm' ho₂ =>
      -- both go through members of `d`, which stand equally far below it: through the same one
      have hplace : p' ++ o₂.place = p ++ (o₁.place ++ r) := by
        simpa only [Occurrence.within, List.append_assoc] using hr
      obtain ⟨rfl, hrest⟩ := List.append_inj hplace (hm'.length_eq.trans hm.length_eq.symm)
      obtain rfl := hm.unique hm'
      exact (ih ho₂ hrest).imp (congrArg (Occurrence.within d p')) id

theorem eq_or_reach_le_top {root : Node} {o o' : Occurrence} (ho : DeclaresTop root o)
    (ho' : DeclaresTop root o') {r : Place} (hr : o'.place = o.place ++ r) :
    o' = o ∨ reach o.node ≤ r.length := by
  obtain ⟨hn, ho⟩ := ho
  obtain ⟨hn', ho'⟩ := ho'
  simp only [List.cons_append, List.cons.injEq] at hr
  obtain ⟨rfl, hr⟩ := hr
  obtain rfl := hn.unique hn'
  refine (eq_or_reach_le ho ho' hr).imp (fun h => ?_) id
  rw [h]

/-- No node is an item of two declarations. -/
theorem owner_unique {root c c' : Node} {o o' : Occurrence} {p p' : Place}
    (ho : DeclaresTop root o) (ho' : DeclaresTop root o') (hc : ItemAt o.node p c)
    (hc' : ItemAt o'.node p' c') (hplace : o.place ++ p = o'.place ++ p') : o = o' := by
  have key {o o' : Occurrence} {p p' : Place} {c c' : Node} (ho : DeclaresTop root o)
      (ho' : DeclaresTop root o') (hc : ItemAt o.node p c) (hc' : ItemAt o'.node p' c')
      {r : Place} (hr : o'.place = o.place ++ r) (hp : p = r ++ p') : o' = o := by
    refine (eq_or_reach_le_top ho ho' hr).resolve_right fun hle => ?_
    have hlength := congrArg List.length hp
    have hpos := List.length_pos_of_ne_nil hc'.ne_nil
    have hreach := hc.length_le
    rw [List.length_append] at hlength
    omega
  obtain ⟨r, hr, hp⟩ | ⟨r, hr, hp⟩ := List.append_eq_append_iff.mp hplace
  · exact (key ho ho' hc hc' hr hp).symm
  · exact key ho' ho hc' hc hr hp

/-! ## The types of a source -/

theorem IsTypeAt.ownMembers {outer : List String} {o : Occurrence} {t : TypeDecl}
    (ht : IsTypeAt outer o t) : OwnMembers o.node t := by
  obtain ⟨h, name, q, hh, -, -, rfl⟩ := ht
  exact ownMembers_declaration hh name q

/-- **Members.**  The types of a source are its declarations in pre-order, and the lists of each describe the members in
its own body, one for one and in the order of the source.  A node is an item of one declaration at most, and between a
declaration and its items stands only its own body: no other type, no method and no constant. -/
theorem members_of_own_body (root : Node) (package : Option String) :
    (∃ os : List Occurrence,
      os.Pairwise (fun o o' => Precedes o.place o'.place) ∧
      (∀ o, o ∈ os ↔ DeclaresTop root o) ∧
      List.Forall₂ (fun o t => OwnMembers o.node t) os (types root package)) ∧
    (∀ o o' p p' c c', DeclaresTop root o → DeclaresTop root o' →
      ItemAt o.node p c → ItemAt o'.node p' c' →
        (o.place ++ p = o'.place ++ p' ↔ o = o' ∧ p = p')) ∧
    ∀ d c q r, ItemAt d (q ++ r) c → q ≠ [] → r ≠ [] → ∃ b, OwnBodyAt d q b := by
  refine ⟨⟨occurrences root, pairwise_occurrences root, fun o => mem_occurrences, ?_⟩, ?_, ?_⟩
  · exact (forall₂_types root package).imp fun _ _ ht => ht.ownMembers
  · intro o o' p p' c c' ho ho' hc hc'
    constructor
    · intro hplace
      obtain rfl := owner_unique ho ho' hc hc' hplace
      exact ⟨rfl, List.append_cancel_left hplace⟩
    · rintro ⟨rfl, rfl⟩
      rfl
  · intro d c q r hc hq hr
    exact hc.between hq hr

/-- A method without parameters. -/
def sampleMethod (name : String) : Node :=
  .mk { kind := "method_declaration", named := true }
    [.mk { kind := "identifier", named := true, label := some "name", text := name } []]

/-- A constant whose own body holds a method. -/
def sampleConstant : Node := bodied "enum_constant" "X" [sampleMethod "inner"]

/-- A declaration part of an enum. -/
def samplePart : Node :=
  .mk { kind := "enum_body_declarations", named := true } [sampleMethod "outer"]

/-- An enum with a constant and a method of its own. -/
def sampleEnum : Node := bodied "enum_declaration" "E" [sampleConstant, samplePart]

/-- A source with one enum. -/
def sampleEnumSource : Node := .mk { kind := "program", named := true } [sampleEnum]

example : (types sampleEnumSource none).map (·.members.methods.map (·.name)) = [["outer"]] := by
  decide +kernel

theorem members_sampleEnumSource :
    DeclaresTop sampleEnumSource ⟨[0], [], sampleEnum⟩ ∧
      ItemAt sampleEnum [1, 0] sampleConstant ∧
      ItemAt sampleEnum [1, 1, 0] (sampleMethod "outer") ∧
      ([0] ++ [1, 0] = [0] ++ [1, 1, 0] ↔
        (⟨[0], [], sampleEnum⟩ : Occurrence) = ⟨[0], [], sampleEnum⟩ ∧ [1, 0] = [1, 1, 0]) ∧
      (∃ b, OwnBodyAt sampleEnum [1, 1] b) := by
  have hd : DeclaresTop sampleEnumSource ⟨[0], [], sampleEnum⟩ :=
    .child (o := ⟨[], [], sampleEnum⟩) ⟨rfl, rfl⟩ (.self (by decide))
  have hbody : BodyAt sampleEnum 1
      (.mk { kind := "enum_declaration_body", named := true, label := some "body" }
        [sampleConstant, samplePart]) :=
    bodyPlace?_eq_some_iff.mp rfl
  have hconstant : ItemAt sampleEnum [1, 0] sampleConstant :=
    .inr (.mk rfl hbody ⟨rfl, rfl⟩ rfl rfl)
  have hmethod : ItemAt sampleEnum [1, 1, 0] (sampleMethod "outer") :=
    .inl (.enumBody rfl hbody ⟨rfl, rfl⟩ rfl ⟨rfl, rfl⟩)
  obtain ⟨-, howner, hbetween⟩ := members_of_own_body sampleEnumSource none
  exact ⟨hd, hconstant, hmethod, howner _ _ _ _ _ _ hd hd hconstant hmethod,
    hbetween _ _ [1, 1] [0] hmethod (by simp) (by simp)⟩

end TypeCensus.Java
