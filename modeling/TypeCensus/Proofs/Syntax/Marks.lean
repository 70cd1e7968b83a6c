import TypeCensus.Proofs.Syntax.Faults

/-!
# Marks — what is marked in the concrete syntax of a text

A tree that was read costs something just if something in it is broken or missing, and the node of a tree is marked if
the tree costs something.  A token that could not be read costs nothing by itself, but it stands in broken text, which
does.  So in the concrete syntax of a text the marks are right for all other nodes, whatever the grammar.

* `Unread`, `RightlyMarked`: a token that could not be read, and a right mark.
* `price_pos_iff_ofTree`: the nodes of a tree that is not loose hold a fault just if the tree costs something.
* `exists_standsFor_of_mem_ofText`: every node of a text stands for a tree that was read.
* `unread_or_rightlyMarked`, `text_of_mem_ofText`: the marks and the texts of these nodes.
* `innermostFault?_ofText`: what a search finds that follows the marks.
* `refused_iff`, `fault_of_refused`: which sources are refused, and the node that is named.
-/

namespace TypeCensus.Reading.Tree.Raw

/-- What is wrong with a tree that is not loose is wrong with itself or with a child. -/
theorem price_pos_iff {x : Raw} (h : x.Sound) (hloose : x.isLoose = false) :
    0 < x.price ↔ (x.info.kind = .broken ∨ x.info.missing = true) ∨ ∃ c ∈ x.children, 0 < c.price := by
  simp only [isLoose, Bool.or_eq_false_iff, Bool.and_eq_false_imp, decide_eq_true_eq,
    decide_eq_false_iff_not] at hloose
  cases hkind : x.info.kind with
  | symbol s =>
    rw [← h.fits.cost s hkind, price]
    cases x.info.missing <;> simp [missingPrice, brokenPrice]
  | broken =>
    have hcost : 0 < x.info.cost := Nat.pos_of_ne_zero (hloose.2 hkind)
    have hprice : 0 < x.price := by
      rw [price]
      split
      · exact Nat.succ_pos _
      · exact hcost
    simp [hprice]
  | pile => exact absurd hkind hloose.1

theorem shown_of_fault {x : Raw} (h : x.Sound) (hfault : x.info.kind = .broken ∨ x.info.missing = true) :
    x.info.shown = true := by
  obtain hbroken | hmissing := hfault
  · exact h.fits.broken hbroken
  · exact (h.fits.missing hmissing).1

/-- The children of a tree that is neither broken nor loose are not loose either. -/
theorem tight {x : Raw} (h : x.Sound) (hloose : x.isLoose = false) (hkind : x.info.kind ≠ .broken) :
    ∀ c ∈ x.children, c.isLoose = false := by
  cases hk : x.info.kind with
  | symbol s => exact h.fits.tight s hk
  | broken => exact absurd hk hkind
  | pile => simp [isLoose, hk] at hloose

end TypeCensus.Reading.Tree.Raw

namespace TypeCensus.Syntax.Node

open TypeCensus.Grammar TypeCensus.Reading
open TypeCensus.Text (Source)

/-- A token that could not be read.  It is broken and has no mark. -/
structure Unread (n : Node) : Prop where
  broken : n.info.broken = true
  unmarked : n.isMarked = false
  childless : n.children = []

/-- A node is marked just if there is a fault in it. -/
def RightlyMarked (n : Node) : Prop := n.info.faulty = true ↔ ∃ m ∈ n.postorder, m.isFault = true

variable (t : Table) (s : Source)

theorem isFault_nodeOf (label : Option String) (guise : Option Guise) (x : Tree.Raw) :
    (nodeOf t s label guise x).isFault = true ↔ x.info.kind = .broken ∨ x.info.missing = true := by
  have hbroken : (x.info.kind == .broken) = true ↔ x.info.kind = .broken := by
    cases x.info.kind <;> simp <;> rfl
  rw [← hbroken, ← Bool.or_eq_true]
  rfl

theorem ofTree_of_shown {label : Option String} {guise : Option Guise} {x : Tree.Raw}
    (h : (x.info.shown || guise.isSome) = true) : ofTree t s label guise x = [nodeOf t s label guise x] := by
  obtain ⟨i, cs⟩ := x
  rw [ofTree]
  exact if_pos h

theorem ofTree_of_not_shown {label : Option String} {guise : Option Guise} {x : Tree.Raw}
    (h : ¬ (x.info.shown || guise.isSome) = true) : ofTree t s label guise x =
      ofTrees t s (shapeOf t x.info).labels (shapeOf t x.info).guises label x.children := by
  obtain ⟨i, cs⟩ := x
  rw [ofTree]
  exact if_neg h

theorem postorderIn_append (ms ns : List Node) : postorderIn (ms ++ ns) = postorderIn ms ++ postorderIn ns := by
  induction ms with
  | nil => rfl
  | cons m ms ih => rw [List.cons_append, postorderIn, postorderIn, ih, List.append_assoc]

theorem postorderIn_singleton (n : Node) : postorderIn [n] = n.postorder := List.append_nil _

/-! ## Faults and prices -/

/-- There is a node of some kind in some nodes. -/
def Within (p : Node → Bool) (ns : List Node) : Prop := ∃ m ∈ postorderIn ns, p m = true

theorem within_append {p : Node → Bool} {ms ns : List Node} :
    Within p (ms ++ ns) ↔ Within p ms ∨ Within p ns := by
  simp [Within, postorderIn_append, or_and_right, exists_or]

theorem within_singleton {p : Node → Bool} {n : Node} : Within p [n] ↔ p n = true ∨ Within p n.children := by
  simp only [Within, postorderIn_singleton, postorder_eq, List.mem_append, List.mem_singleton]
  constructor
  · rintro ⟨m, hm | rfl, hp⟩
    · exact .inr ⟨m, hm, hp⟩
    · exact .inl hp
  · rintro (hp | ⟨m, hm, hp⟩)
    · exact ⟨n, .inr rfl, hp⟩
    · exact ⟨m, .inl hm, hp⟩

/-- Of the nodes of trees that are not loose, `p` holds of those that are broken or missing themselves. -/
def MeansFaults (p : Node → Bool) : Prop :=
  ∀ label guise (x : Tree.Raw), x.Sound → x.isLoose = false →
    (p (nodeOf t s label guise x) = true ↔ x.info.kind = .broken ∨ x.info.missing = true)

section Prices

variable {t s} {p : Node → Bool}

/-- What a tree costs shows in its node, if it does in the nodes of its children. -/
theorem price_pos_iff_nodeOf (hp : MeansFaults t s p) {label : Option String} {guise : Option Guise}
    {x : Tree.Raw} (h : x.Sound) (hloose : x.isLoose = false)
    (hbelow : (∀ c ∈ x.children, c.isLoose = false) →
      ((∃ c ∈ x.children, 0 < c.price) ↔ Within p (nodeOf t s label guise x).children)) :
    0 < x.price ↔ Within p [nodeOf t s label guise x] := by
  rw [Tree.Raw.price_pos_iff h hloose, within_singleton, hp label guise x h hloose]
  by_cases hself : x.info.kind = .broken ∨ x.info.missing = true
  · simp [hself]
  · rw [hbelow (Tree.Raw.tight h hloose fun hkind => hself (.inl hkind))]

mutual

/-- A tree that is not loose costs something just if there is a fault in its nodes. -/
theorem price_pos_iff_ofTree (hp : MeansFaults t s p) (label : Option String) (guise : Option Guise) :
    ∀ x : Tree.Raw, x.Sound → x.isLoose = false → (0 < x.price ↔ Within p (ofTree t s label guise x))
  | .node i cs, h, hloose => by
    by_cases hshown : ((Tree.Raw.node i cs).info.shown || guise.isSome) = true
    · rw [ofTree_of_shown t s hshown]
      exact price_pos_iff_nodeOf hp h hloose fun htight => price_pos_iff_ofTrees hp _ _ none cs h.of_mem htight
    · have hself := mt (Tree.Raw.shown_of_fault h) fun hs => hshown (by rw [hs, Bool.true_or])
      have htight := Tree.Raw.tight h hloose fun hkind => hself (.inl hkind)
      rw [ofTree_of_not_shown t s hshown, Tree.Raw.price_pos_iff h hloose, or_iff_right hself]
      exact price_pos_iff_ofTrees hp _ _ label cs h.of_mem htight

theorem price_pos_iff_ofTrees (hp : MeansFaults t s p) (labels : List (Option String))
    (guises : List (Option Guise)) (outer : Option String) : ∀ cs : List Tree.Raw, (∀ c ∈ cs, c.Sound) →
      (∀ c ∈ cs, c.isLoose = false) →
        ((∃ c ∈ cs, 0 < c.price) ↔ Within p (ofTrees t s labels guises outer cs))
  | [], _, _ => by simp [ofTrees, Within, postorderIn]
  | c :: cs, h, htight => by
    rw [List.forall_mem_cons] at h htight
    rw [List.exists_mem_cons_iff, ofTrees]
    split
    · rw [within_append, price_pos_iff_ofTree hp none none c h.1 htight.1,
        price_pos_iff_ofTrees hp labels guises outer cs h.2 htight.2]
    · rw [within_append, price_pos_iff_ofTree hp _ _ c h.1 htight.1,
        price_pos_iff_ofTrees hp labels.tail guises.tail outer cs h.2 htight.2]

end

/-- What a tree that is not loose costs shows in its node. -/
theorem price_pos_iff_exists (hp : MeansFaults t s p) {label : Option String} {guise : Option Guise}
    {x : Tree.Raw} (h : x.Sound) (hloose : x.isLoose = false) :
    0 < x.price ↔ ∃ m ∈ (nodeOf t s label guise x).postorder, p m = true := by
  rw [← postorderIn_singleton]
  exact price_pos_iff_nodeOf hp h hloose fun htight => price_pos_iff_ofTrees hp _ _ none x.children h.of_mem htight

end Prices

/-! ## Marks -/

theorem faulty_nodeOf_iff {label : Option String} {guise : Option Guise} {x : Tree.Raw} :
    (nodeOf t s label guise x).info.faulty = true ↔ 0 < x.price := by
  have hfaulty : (nodeOf t s label guise x).info.faulty = (x.info.missing || decide (x.info.cost > 0)) := rfl
  rw [hfaulty, Tree.Raw.price]
  cases x.info.missing <;> simp [Tree.missingPrice, Tree.brokenPrice]

theorem meansFaults_isFault : MeansFaults t s isFault := fun label guise x _ _ => isFault_nodeOf t s label guise x

theorem meansFaults_isMarkedFault : MeansFaults t s isMarkedFault := by
  intro label guise x h hloose
  rw [isMarkedFault, Bool.and_eq_true, isFault_nodeOf, and_iff_left_iff_imp]
  intro hfault
  have hfaulty : (nodeOf t s label guise x).info.faulty = true :=
    (faulty_nodeOf_iff t s).mpr ((Tree.Raw.price_pos_iff h hloose).mpr (.inl hfault))
  rw [isMarked, hfaulty, Bool.true_or]

theorem rightlyMarked_nodeOf {label : Option String} {guise : Option Guise} {x : Tree.Raw} (h : x.Sound)
    (hloose : x.isLoose = false) : RightlyMarked (nodeOf t s label guise x) :=
  (faulty_nodeOf_iff t s).trans (price_pos_iff_exists (meansFaults_isFault t s) h hloose)

/-- A loose tree that is shown is a token that could not be read. -/
theorem unread_nodeOf {label : Option String} {guise : Option Guise} {x : Tree.Raw} (h : x.Sound)
    (hloose : x.isLoose = true) (hshown : x.info.shown = true) : Unread (nodeOf t s label guise x) := by
  have hkind : x.info.kind = .broken ∧ x.info.cost = 0 := by
    simp only [Tree.Raw.isLoose, Bool.or_eq_true, Bool.and_eq_true, decide_eq_true_eq] at hloose
    refine hloose.resolve_left fun hpile => ?_
    rw [h.fits.pile hpile] at hshown
    cases hshown
  have hmissing : x.info.missing = false := by
    by_contra hnot
    obtain ⟨-, s, hs⟩ := h.fits.missing (by simpa using hnot)
    rw [hkind.1] at hs
    cases hs
  have hchildren : x.children = [] := h.fits.bare hkind.1 hkind.2
  constructor
  · simp only [nodeOf, info, infoOf, hkind.1]
    rfl
  · simp [nodeOf, isMarked, info, infoOf, hkind.2, hmissing]
  · simp [nodeOf, children, hchildren, ofTrees]

/-! ## Nodes and trees -/

/-- Where a child is loose, the children have no guises. -/
theorem guises_of_isLoose {x : Tree.Raw} (h : x.Sound) :
    ∀ c ∈ x.children, c.isLoose = true → (shapeOf t x.info).guises = [] := by
  intro c hc hloose
  cases hkind : x.info.kind with
  | symbol s => simp [h.fits.tight s hkind c hc] at hloose
  | broken => simp [shapeOf, hkind]
  | pile => simp [shapeOf, hkind]

/-- A node stands for a tree, which is shown if it is loose. -/
def StandsFor (n : Node) (x : Tree.Raw) : Prop :=
  x.Sound ∧ (x.isLoose = true → x.info.shown = true) ∧ ∃ label guise, n = nodeOf t s label guise x

mutual

theorem exists_standsFor_of_mem_ofTree (label : Option String) (guise : Option Guise) : ∀ x : Tree.Raw, x.Sound →
    (x.isLoose = true → guise = none) → ∀ n ∈ postorderIn (ofTree t s label guise x), ∃ y, StandsFor t s n y
  | .node i cs, h, hguise => by
    have hbelow (outer : Option String) := exists_standsFor_of_mem_ofTrees (shapeOf t i).labels
      (shapeOf t i).guises outer cs h.of_mem (guises_of_isLoose t h)
    by_cases hshown : ((Tree.Raw.node i cs).info.shown || guise.isSome) = true
    · rw [ofTree_of_shown t s hshown, postorderIn_singleton, postorder_eq, List.forall_mem_append]
      refine ⟨hbelow none, List.forall_mem_singleton.mpr ⟨.node i cs, h, fun hloose => ?_, label, guise, rfl⟩⟩
      simpa [hguise hloose] using hshown
    · rw [ofTree_of_not_shown t s hshown]
      exact hbelow label

theorem exists_standsFor_of_mem_ofTrees (labels : List (Option String)) (guises : List (Option Guise))
    (outer : Option String) : ∀ cs : List Tree.Raw, (∀ c ∈ cs, c.Sound) →
      (∀ c ∈ cs, c.isLoose = true → guises = []) →
        ∀ n ∈ postorderIn (ofTrees t s labels guises outer cs), ∃ y, StandsFor t s n y
  | [], _, _ => by simp [ofTrees, postorderIn]
  | c :: cs, h, hguises => by
    rw [List.forall_mem_cons] at h hguises
    rw [ofTrees]
    split
    · have hfirst := exists_standsFor_of_mem_ofTree none none c h.1 fun _ => rfl
      have hrest := exists_standsFor_of_mem_ofTrees labels guises outer cs h.2 hguises.2
      rw [postorderIn_append, List.forall_mem_append]
      exact ⟨hfirst, hrest⟩
    · have hfirst := exists_standsFor_of_mem_ofTree (labels.head?.join <|> outer) guises.head?.join c h.1
        fun hloose => by rw [hguises.1 hloose, List.head?_nil, Option.join_none]
      have hrest := exists_standsFor_of_mem_ofTrees labels.tail guises.tail outer cs h.2
        fun d hd hloose => by rw [hguises.2 d hd hloose, List.tail_nil]
      rw [postorderIn_append, List.forall_mem_append]
      exact ⟨hfirst, hrest⟩

end

/-- Every node of a text stands for a tree. -/
theorem exists_standsFor_of_mem_ofText {text : String} {n : Node} (hn : n ∈ (ofText t text).postorder) :
    ∃ x, StandsFor t (Source.ofString text) n x := by
  have hsound := (read t (Source.ofString text)).2
  have hloose : (read t (Source.ofString text)).1.isLoose = false := isLoose_read t _
  rw [postorder_eq, List.mem_append] at hn
  obtain hn | hn := hn
  · exact exists_standsFor_of_mem_ofTrees t _ _ _ none _ hsound.of_mem (guises_of_isLoose t hsound) n hn
  · obtain rfl := List.mem_singleton.mp hn
    exact ⟨_, hsound, fun h => absurd (h.symm.trans hloose) (by decide), none, none, rfl⟩

/-- In a text all nodes are rightly marked, but for tokens that could not be read. -/
theorem unread_or_rightlyMarked {text : String} {n : Node} (hn : n ∈ (ofText t text).postorder) :
    n.Unread ∨ n.RightlyMarked := by
  obtain ⟨x, hsound, hshown, label, guise, rfl⟩ := exists_standsFor_of_mem_ofText t hn
  cases hloose : x.isLoose with
  | false => exact .inr (rightlyMarked_nodeOf t _ hsound hloose)
  | true => exact .inl (unread_nodeOf t _ hsound hloose (hshown hloose))

theorem rightlyMarked_ofText (text : String) : (ofText t text).RightlyMarked :=
  rightlyMarked_nodeOf t _ (read t _).2 (isLoose_read t _)

/-- A text that is marked has a fault that is marked. -/
theorem exists_isMarkedFault {text : String} (h : (ofText t text).info.faulty = true) :
    ∃ m ∈ (ofText t text).postorder, m.isMarkedFault = true :=
  (price_pos_iff_exists (meansFaults_isMarkedFault t _) (read t _).2 (isLoose_read t _)).mp
    ((faulty_nodeOf_iff t _).mp h)

/-- The text of a node stands between its points. -/
theorem text_of_mem_ofText {text : String} {n : Node} (hn : n ∈ (ofText t text).postorder) :
    n.text = String.Pos.Raw.extract text ⟨n.info.start.byte⟩ ⟨n.info.stop.byte⟩ := by
  obtain ⟨x, -, -, label, guise, rfl⟩ := exists_standsFor_of_mem_ofText t hn
  rfl

/-! ## Searching a text -/

theorem Unread.not_isMarkedFault {n : Node} (h : n.Unread) : ¬ n.isMarkedFault = true := by
  simp [isMarkedFault, h.unmarked]

theorem sealed_ofText (text : String) : (ofText t text).Sealed := by
  intro n hn hunmarked m hm
  obtain hunread | hright := unread_or_rightlyMarked t hn
  · rw [postorder_eq, hunread.childless] at hm
    obtain rfl := List.mem_singleton.mp hm
    exact hunread.not_isMarkedFault
  · intro hfault
    rw [isMarkedFault, Bool.and_eq_true] at hfault
    have hfaulty : n.info.faulty = true := hright.mpr ⟨m, hm, hfault.1⟩
    simp [isMarked, hfaulty] at hunmarked

/-- The search in a text finds the first fault that is marked. -/
theorem innermostFault?_ofText (text : String) :
    (ofText t text).innermostFault? = (ofText t text).postorder.find? isMarkedFault := by
  refine innermostFault?_eq_of_sealed _ (sealed_ofText t text) fun hfault => ?_
  have hfaulty := (rightlyMarked_ofText t text).mpr ⟨_, self_mem_postorder _, hfault⟩
  rw [isMarked, hfaulty, Bool.true_or]

theorem unread_of_isFault {text : String} {n : Node} (hn : n ∈ (ofText t text).postorder) (hfault : n.isFault = true)
    (hnot : ¬ n.isMarkedFault = true) : n.Unread := by
  refine (unread_or_rightlyMarked t hn).resolve_right fun hright => hnot ?_
  have hfaulty : n.info.faulty = true := hright.mpr ⟨n, n.self_mem_postorder, hfault⟩
  simp [isMarkedFault, isMarked, hfault, hfaulty]

end TypeCensus.Syntax.Node

namespace TypeCensus.Java

open TypeCensus.Syntax (Fault Node)

/-- The marks of a source are right, if all of its tokens could be read. -/
theorem marked_parse {text : String} (h : ∀ n ∈ (parse text).postorder, ¬ n.Unread) : (parse text).Marked :=
  fun n hn => (Node.unread_or_rightlyMarked table hn).resolve_left (h n hn)

/-- A source is refused just if something in its concrete syntax is broken or missing. -/
theorem refused_iff (path text : String) :
    (∃ f, unit path text = .error f) ↔ ∃ n ∈ (parse text).postorder, n.isFault = true := by
  have hmark : (parse text).info.faulty = true ↔ ∃ n ∈ (parse text).postorder, n.isFault = true :=
    Node.rightlyMarked_ofText table text
  rw [← hmark, unit, unitOrFault]
  by_cases hfaulty : (parse text).info.faulty = true <;> simp [hfaulty]

/-- The fault of a source that is refused names the first marked fault in post-order, below which there is nothing wrong
but tokens that could not be read. -/
theorem fault_of_refused {path text : String} {f : Fault} (h : unit path text = .error f) :
    ∃ m, (parse text).postorder.find? Node.isMarkedFault = some m ∧
      (∀ k ∈ Node.postorderIn m.children, k.isFault = true → k.Unread) ∧
      (m.info.broken = true ∧ m.ReachesEnd text → f = .unexpectedEnd m.info.stop) ∧
      (¬ (m.info.broken = true ∧ m.ReachesEnd text) → f = .unreadable m.info.start) := by
  have hfaulty : (parse text).info.faulty = true := by
    by_contra hnot
    rw [unit, unitOrFault, if_neg hnot] at h
    cases h
  rw [unit, unitOrFault, if_pos hfaulty] at h
  obtain rfl : (parse text).fault text = f := Except.error.inj h
  obtain ⟨m, hm⟩ := Option.isSome_iff_exists.mp
    (List.find?_isSome.mpr (Node.exists_isMarkedFault table hfaulty))
  obtain ⟨hends, hbegins⟩ := Syntax.fault_of_found ((Node.innermostFault?_ofText table text).trans hm) text
  refine ⟨m, hm, fun k hk hfault => ?_, hends, hbegins⟩
  have hbelow : k ∈ m.postorder := by
    rw [Node.postorder_eq]
    exact List.mem_append_left _ hk
  have hinside : k ∈ (parse text).postorder := Node.postorder_subset_of_mem (List.mem_of_find?_eq_some hm) hbelow
  exact Node.unread_of_isFault table hinside hfault (Node.not_below_of_find? Node.isMarkedFault _ m hm k hk)

end TypeCensus.Java
