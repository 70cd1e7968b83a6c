import TypeCensus.Grammar.Table

/-!
# Tree — what has been read, with what it cost

A tree covers a stretch of the text: blanks from `begin` to `start`, then the text of the tree up to `stop`.
Broken text costs: the cost of a tree is that of everything broken or missing in it, and of two readings the cheaper
one wins.  A tree is made so that its data fit its children: it costs something just if something in it is broken or
missing, and what is loose stands in broken text.
-/

namespace TypeCensus.Reading

open TypeCensus.Grammar
open TypeCensus.Text (Source)

/-- What a tree is of. A `pile` gathers broken text until it becomes one broken tree. -/
inductive Kind where
  | symbol (s : Symbol)
  | broken
  | pile
deriving BEq, DecidableEq, Inhabited, Repr

/-- Everything about a tree but its children. -/
structure Tree.Info where
  kind : Kind
  begin : Nat
  start : Nat
  stop : Nat
  /-- The bytes of the blanks before the tree. -/
  padding : Nat
  /-- The bytes of the tree. -/
  bytes : Nat
  /-- The lines that the tree and the blanks before it run through. -/
  lines : Nat
  cost : Nat := 0
  dynamic : Int := 0
  /-- The number of shown trees below. -/
  below : Nat := 0
  /-- The number of shown trees right below, silent ones looked through. -/
  branches : Nat := 0
  shown : Bool
  extra : Bool := false
  missing : Bool := false
  /-- The text of the token begins with a keyword. -/
  keyword : Bool := false
  /-- The row that the token was scanned for. -/
  row : Nat := 0
  shape : Nat := 0
deriving Inhabited, Repr

/-- A tree whose data may be at odds with its children. -/
inductive Tree.Raw where
  | node (info : Tree.Info) (children : List Tree.Raw)
deriving Inhabited

namespace Tree

/-- The price of a stretch of broken text. -/
def brokenPrice : Nat := 500

/-- The price of a missing token, besides that of the break. -/
def missingPrice : Nat := 110

/-- The price of a shown tree in broken text. -/
def treePrice : Nat := 100

/-- The price of a byte of broken text. -/
def bytePrice : Nat := 1

/-- The price of a line of broken text. -/
def linePrice : Nat := 30

namespace Raw

/-- Everything about a tree but its children. -/
def info : Raw → Info
  | node i _ => i

/-- The children of a tree. -/
def children : Raw → List Raw
  | node _ cs => cs

/-- The cost of a tree as a part of another. -/
def price (t : Raw) : Nat := if t.info.missing then missingPrice + brokenPrice else t.info.cost

/-- Whether a tree can only stand in broken text: a pile, or a token that could not be read. -/
def isLoose (t : Raw) : Bool := t.info.kind = .pile || (t.info.kind = .broken && t.info.cost = 0)

/-- What the data of a tree say of its children, and of how it is shown. -/
structure Fits (i : Info) (cs : List Raw) : Prop where
  /-- The parts of a symbol make all of its cost. -/
  cost : ∀ s, i.kind = .symbol s → (0 < i.cost ↔ ∃ c ∈ cs, 0 < c.price)
  /-- A symbol has no loose parts. -/
  tight : ∀ s, i.kind = .symbol s → ∀ c ∈ cs, c.isLoose = false
  /-- Broken text that costs nothing is a token. -/
  bare : i.kind = .broken → i.cost = 0 → cs = []
  /-- Only a symbol can be missing, and it is shown. -/
  missing : i.missing = true → i.shown = true ∧ ∃ s, i.kind = .symbol s
  broken : i.kind = .broken → i.shown = true
  pile : i.kind = .pile → i.shown = false

/-- The data fit the children, all the way down. -/
inductive Sound : Raw → Prop
  | node {i : Info} {cs : List Raw} (fits : Fits i cs) (children : ∀ c ∈ cs, Sound c) : Sound (node i cs)

theorem Sound.fits {t : Raw} (h : t.Sound) : Fits t.info t.children := by
  cases h with
  | node fits _ => exact fits

theorem Sound.of_mem {t : Raw} (h : t.Sound) : ∀ c ∈ t.children, c.Sound := by
  cases h with
  | node _ children => exact children

end Raw

end Tree

/-- A tree. -/
def Tree : Type := { t : Tree.Raw // t.Sound }

namespace Tree

open Raw (Fits Sound)

/-- Everything about a tree but its children. -/
def info (t : Tree) : Info := t.1.info

/-- The children of a tree. -/
def children (t : Tree) : List Tree := t.1.children.attachWith Sound t.2.of_mem

/-- The cost of a tree as a part of another. -/
def price (t : Tree) : Nat := t.1.price

/-- Whether a tree can only stand in broken text. -/
def isLoose (t : Tree) : Bool := t.1.isLoose

/-- How many nodes a tree counts for when progress is measured. -/
def weight (t : Tree) : Nat :=
  t.info.below + (if t.info.shown then 1 else 0) + (if t.info.kind == .pile then 1 else 0)

/-- Whether trees of the kind are shown. -/
def isShown (g : FlatGrammar) : Kind → Bool
  | .broken => true
  | .pile => false
  | .symbol s => !g.isSilent s

/-! ## Tokens -/

/-- The data of a token from `start` to `stop` after blanks that begin at `begin`. -/
def tokenInfo (g : FlatGrammar) (s : Source) (kind : Kind) (begin start stop row : Nat) : Info where
  kind
  begin
  start
  stop
  row
  padding := s.byte start - s.byte begin
  bytes := s.byte stop - s.byte start
  lines := s.line stop - s.line begin
  shown := isShown g kind

theorem fits_tokenInfo (g : FlatGrammar) (s : Source) (kind : Kind) (begin start stop row : Nat) :
    Fits (tokenInfo g s kind begin start stop row) [] where
  cost _ _ := by simp [tokenInfo]
  tight := by simp
  bare _ _ := rfl
  missing h := by simp [tokenInfo] at h
  broken h := by obtain rfl : kind = .broken := h; rfl
  pile h := by obtain rfl : kind = .pile := h; rfl

/-- A token from `start` to `stop` after blanks that begin at `begin`. -/
def leaf (g : FlatGrammar) (s : Source) (kind : Kind) (begin start stop row : Nat) : Tree :=
  ⟨.node (tokenInfo g s kind begin start stop row) [], .node (fits_tokenInfo ..) (by simp)⟩

/-- A token that is missing at a position. -/
def missing (g : FlatGrammar) (s : Source) (token pos : Nat) : Tree :=
  ⟨.node { tokenInfo g s (.symbol (.token token)) pos pos pos 0 with missing := true, shown := true } [],
    .node
      { fits_tokenInfo g s (.symbol (.token token)) pos pos pos 0 with
        missing := fun _ => ⟨rfl, _, rfl⟩
        broken := nofun
        pile := nofun }
      (by simp)⟩

/-! ## Changes -/

/-- Data that agree in all that has to fit. -/
structure Info.Agrees (i j : Info) : Prop where
  kind : i.kind = j.kind
  cost : i.cost = j.cost
  shown : i.shown = j.shown
  missing : i.missing = j.missing

theorem Info.Agrees.fits {i j : Info} (h : i.Agrees j) {cs : List Raw} (hj : Fits j cs) : Fits i cs where
  cost := by rw [h.kind, h.cost]; exact hj.cost
  tight := by rw [h.kind]; exact hj.tight
  bare := by rw [h.kind, h.cost]; exact hj.bare
  missing := by rw [h.kind, h.shown, h.missing]; exact hj.missing
  broken := by rw [h.kind, h.shown]; exact hj.broken
  pile := by rw [h.kind, h.shown]; exact hj.pile

/-- The tree with its own data changed. -/
def modify (f : Info → Info) (hf : ∀ i, (f i).Agrees i) (t : Tree) : Tree :=
  ⟨.node (f t.info) t.1.children, .node ((hf t.info).fits t.2.fits) t.2.of_mem⟩

/-- The tree as an extra, or as none. -/
def asExtra (extra : Bool) : Tree → Tree := modify ({ · with extra }) fun _ => ⟨rfl, rfl, rfl, rfl⟩

/-- The tree as a token whose text begins with a keyword. -/
def asKeyword : Tree → Tree := modify ({ · with keyword := true }) fun _ => ⟨rfl, rfl, rfl, rfl⟩

/-- The tree with some weight added. -/
def weighed (dynamic : Int) : Tree → Tree :=
  modify (fun i => { i with dynamic := i.dynamic + dynamic }) fun _ => ⟨rfl, rfl, rfl, rfl⟩

/-! ## Phrases -/

/-- What a child adds to the cost of broken text around it. -/
def loss (c : Tree) : Nat :=
  let i := c.info
  let hollow := c.1.children.isEmpty
  if i.extra || (i.kind == .broken && hollow) then 0
  else if i.shown then treePrice
  else if hollow then 0
  else treePrice * i.branches

/-- Sums over children up, where it is also known whether a child is shown; a guise shows what is silent. -/
def sumShown (f : Bool → Info → Nat) : List (Option Guise) → List Tree → Nat
  | _, [] => 0
  | gs, c :: cs =>
    let i := c.info
    if i.extra then f i.shown i + sumShown f gs cs
    else f (i.shown || gs.head?.join.isSome) i + sumShown f gs.tail cs

/-- What a tree of the given children is of: loose text makes it broken. -/
def kindOver (kind : Kind) (cs : List Tree) : Kind :=
  match kind with
  | .symbol s => if cs.any isLoose then .broken else .symbol s
  | kind => kind

/-- The sum of what trees give. -/
def total (f : Tree → Nat) : List Tree → Nat
  | [] => 0
  | c :: cs => f c + total f cs

/-- The cost of a tree of the given children. -/
def costOver (s : Source) (kind : Kind) (cs : List Tree) (start stop : Nat) : Nat :=
  let inner := total price (cs.filter (·.info.kind ≠ .pile))
  match kind with
  | .symbol _ => inner
  | _ =>
    inner + total loss cs + brokenPrice + bytePrice * (s.byte stop - s.byte start) +
      linePrice * (s.line stop - s.line start)

/-- The data of a tree of the given children; one without children stands at `pos`. -/
def infoOver (g : FlatGrammar) (s : Source) (kind : Kind) (cs : List Tree) (pos shape : Nat)
    (guises : List (Option Guise)) : Info :=
  let begin := cs.head?.elim pos (·.info.begin)
  let start := cs.head?.elim pos (·.info.start)
  let stop := cs.getLast?.elim pos (·.info.stop)
  let kind := kindOver kind cs
  { kind, begin, start, stop, shape
    padding := s.byte start - s.byte begin
    bytes := s.byte stop - s.byte start
    lines := s.line stop - s.line begin
    cost := costOver s kind cs start stop
    dynamic := cs.foldl (fun n c => n + c.info.dynamic) 0
    below := sumShown (fun isShown i => i.below + if isShown then 1 else 0) guises cs
    branches := sumShown (fun isShown i => if isShown then 1 else i.branches) guises cs
    shown := isShown g kind }

theorem forall_mem_raws {cs : List Tree} {p : Raw → Prop} : (∀ c ∈ cs.map (·.1), p c) ↔ ∀ c ∈ cs, p c.1 :=
  List.forall_mem_map

theorem exists_mem_raws {cs : List Tree} {p : Raw → Prop} : (∃ c ∈ cs.map (·.1), p c) ↔ ∃ c ∈ cs, p c.1 := by
  constructor
  · rintro ⟨_, hmem, hp⟩
    obtain ⟨c, hc, rfl⟩ := List.mem_map.mp hmem
    exact ⟨c, hc, hp⟩
  · rintro ⟨c, hc, hp⟩
    exact ⟨c.1, List.mem_map_of_mem hc, hp⟩

theorem isLoose_of_kindOver {kind : Kind} {cs : List Tree} {s : Symbol} (h : kindOver kind cs = .symbol s) :
    ∀ c ∈ cs, c.isLoose = false := by
  unfold kindOver at h
  split at h
  · split at h
    · cases h
    · next hany => simpa using hany
  · next hkind => exact absurd h (hkind s)

theorem total_pos_iff {f : Tree → Nat} {cs : List Tree} : 0 < total f cs ↔ ∃ c ∈ cs, 0 < f c := by
  induction cs with
  | nil => simp [total]
  | cons c cs ih => simp only [total, Nat.add_pos_iff_pos_or_pos, ih, List.mem_cons, exists_eq_or_imp]

theorem costOver_symbol_pos_iff {cs : List Tree} (h : ∀ c ∈ cs, c.isLoose = false) (s : Source)
    (x : Symbol) (start stop : Nat) : 0 < costOver s (.symbol x) cs start stop ↔ ∃ c ∈ cs, 0 < c.price := by
  have hall : cs.filter (·.info.kind ≠ .pile) = cs := by
    refine List.filter_eq_self.mpr fun c hc => ?_
    have hloose := h c hc
    simp only [isLoose, Raw.isLoose, Bool.or_eq_false_iff, decide_eq_false_iff_not] at hloose
    exact decide_eq_true hloose.1
  rw [costOver, hall]
  exact total_pos_iff

theorem fits_infoOver (g : FlatGrammar) (s : Source) (kind : Kind) (cs : List Tree) (pos shape : Nat)
    (guises : List (Option Guise)) : Fits (infoOver g s kind cs pos shape guises) (cs.map (·.1)) where
  cost x hx := by
    have hcost := costOver_symbol_pos_iff (isLoose_of_kindOver hx) s x
    rw [exists_mem_raws]
    simp only [infoOver] at hx ⊢
    rw [hx]
    exact hcost _ _
  tight x hx := forall_mem_raws.mpr (isLoose_of_kindOver hx)
  bare hx hcost := by
    simp only [infoOver] at hx hcost
    simp [hx, costOver, brokenPrice] at hcost
  missing h := by simp [infoOver] at h
  broken h := by simp only [infoOver] at h ⊢; simp [h, isShown]
  pile h := by simp only [infoOver] at h ⊢; simp [h, isShown]

/-- A tree of the given children; one without children stands at `pos`. -/
def ofChildren (g : FlatGrammar) (s : Source) (kind : Kind) (cs : List Tree) (pos : Nat)
    (shape : Nat := 0) (guises : List (Option Guise) := []) : Tree :=
  ⟨.node (infoOver g s kind cs pos shape guises) (cs.map (·.1)),
    .node (fits_infoOver ..) (forall_mem_raws.mpr fun c _ => c.2)⟩

/-- The tree itself, or broken text around it if it is loose. -/
def whole (g : FlatGrammar) (s : Source) (t : Tree) : Tree :=
  if t.isLoose then ofChildren g s .broken [t] 0 else t

theorem isLoose_whole (g : FlatGrammar) (s : Source) (t : Tree) : (whole g s t).isLoose = false := by
  unfold whole
  split
  · simp [isLoose, Raw.isLoose, ofChildren, Raw.info, infoOver, kindOver, costOver, brokenPrice]
  · next hloose => simpa using hloose

/-! ## Which reading is better -/

/-- The place of a kind in the order that decides between equally good readings. -/
def rank (g : FlatGrammar) : Kind → Nat
  | .symbol (.token 0) => 0
  | .symbol (.token t) => if t = g.lexicon.wordToken then 1 else t + 1
  | .symbol (.phrase p) => g.lexicon.size + 1 + p
  | .pile => 65534
  | .broken => 65535

mutual

/-- Compares trees node by node: by kind, then by the number of children, then child by child. -/
def Raw.compare (g : FlatGrammar) : Raw → Raw → Ordering
  | .node i cs, .node j ds =>
    (Ord.compare (rank g i.kind) (rank g j.kind)).then <|
      (Ord.compare cs.length ds.length).then <| Raw.compareLists g cs ds

/-- Compares the trees of two lists one by one. -/
def Raw.compareLists (g : FlatGrammar) : List Raw → List Raw → Ordering
  | c :: cs, d :: ds => (Raw.compare g c d).then (Raw.compareLists g cs ds)
  | _, _ => .eq

end

/-- Whether the reading `t` replaces the reading `s` of the same text. -/
def replaces (g : FlatGrammar) (t s : Tree) : Bool :=
  if t.price != s.price then t.price < s.price
  else if t.info.dynamic != s.info.dynamic then t.info.dynamic > s.info.dynamic
  else if s.price > 0 then true
  else s.1.compare g t.1 == .gt

/-- Whether two readings on the same place of a stack may be treated as one. -/
def alike (s t : Tree) : Bool :=
  let i := s.info
  let j := t.info
  i.kind == j.kind && ((s.price > 0 && t.price > 0) ||
    (i.padding == j.padding && i.bytes == j.bytes && s.1.children.length == t.1.children.length &&
      i.extra == j.extra))

/-- The trees without the extras at their end, and those. -/
def splitExtras (ts : List Tree) : List Tree × List Tree :=
  let extras := (ts.reverse.takeWhile (·.info.extra)).reverse
  (ts.take (ts.length - extras.length), extras)

end Tree

end TypeCensus.Reading
