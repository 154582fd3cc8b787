import BatchSql.Proofs.Json.Texts

namespace BatchSql.Json

namespace Number

/-- The digits of a number are read back as a number equal to it. -/
def Kept (n : Number) : Prop :=
  ∃ m, n.reread = some m ∧ n.numEq m = true

def IsInteger : Number → Prop
  | integer _ _ _ => True
  | float _ _ => False

theorem IsInteger.reread {n : Number} (h : n.IsInteger) : n.reread = some n := by
  cases n with
  | integer v low high => exact reread_integer low high
  | float x finite => cases h

theorem IsInteger.kept {n : Number} (h : n.IsInteger) : n.Kept := by
  refine ⟨n, h.reread, ?_⟩
  cases n with
  | integer v low high => simp [numEq]
  | float x finite => cases h

end Number

mutual

/-- Every number in a document is of this kind. -/
def Numbers (p : Number → Prop) : Json → Prop
  | array items => ItemNumbers p items
  | object fields => FieldNumbers p fields
  | number n => p n
  | null => True
  | bool _ => True
  | string _ => True

def ItemNumbers (p : Number → Prop) : List Json → Prop
  | [] => True
  | j :: rest => Numbers p j ∧ ItemNumbers p rest

def FieldNumbers (p : Number → Prop) : List (String × Json) → Prop
  | [] => True
  | (_, j) :: rest => Numbers p j ∧ FieldNumbers p rest

end

section Mono

variable {p q : Number → Prop}

mutual

theorem Numbers.mono {j : Json} (h : j.Numbers p) (hpq : ∀ n, p n → q n) : j.Numbers q := by
  cases j with
  | array items => exact ItemNumbers.mono h hpq
  | object fields => exact FieldNumbers.mono h hpq
  | number n => exact hpq n h
  | null => trivial
  | bool b => trivial
  | string s => trivial

theorem ItemNumbers.mono {items : List Json} (h : ItemNumbers p items) (hpq : ∀ n, p n → q n) :
    ItemNumbers q items := by
  cases items with
  | nil => trivial
  | cons j rest => exact ⟨Numbers.mono h.1 hpq, ItemNumbers.mono h.2 hpq⟩

theorem FieldNumbers.mono {fields : List (String × Json)} (h : FieldNumbers p fields)
    (hpq : ∀ n, p n → q n) : FieldNumbers q fields := by
  cases fields with
  | nil => trivial
  | cons f rest => exact ⟨Numbers.mono h.1 hpq, FieldNumbers.mono h.2 hpq⟩

end

end Mono

mutual

/-- A document is read back as an equal one exactly if each number in it is. -/
theorem reread_numEq_iff (j : Json) :
    (∃ k, j.reread = some k ∧ j.numEq k = true) ↔ j.Numbers Number.Kept := by
  cases j with
  | null => exact ⟨fun _ => trivial, fun _ => ⟨null, rfl, by rw [numEq]⟩⟩
  | bool b => exact ⟨fun _ => trivial, fun _ => ⟨bool b, rfl, by simp [numEq]⟩⟩
  | string s => exact ⟨fun _ => trivial, fun _ => ⟨string s, rfl, by simp [numEq]⟩⟩
  | number n =>
    constructor
    · rintro ⟨k, hk, hsame⟩
      obtain ⟨m, hm, rfl⟩ := Option.map_eq_some_iff.mp hk
      rw [numEq] at hsame
      exact ⟨m, hm, hsame⟩
    · rintro ⟨m, hm, hsame⟩
      refine ⟨number m, by rw [reread, hm]; rfl, ?_⟩
      rw [numEq, hsame]
  | array items =>
    rw [Numbers, ← rereadItems_numEq_iff items]
    constructor
    · rintro ⟨k, hk, hsame⟩
      obtain ⟨ks, hks, rfl⟩ := Option.map_eq_some_iff.mp hk
      rw [numEq] at hsame
      exact ⟨ks, hks, hsame⟩
    · rintro ⟨ks, hks, hsame⟩
      refine ⟨array ks, by rw [reread, hks]; rfl, ?_⟩
      rw [numEq, hsame]
  | object fields =>
    rw [Numbers, ← rereadFields_numEq_iff fields]
    constructor
    · rintro ⟨k, hk, hsame⟩
      obtain ⟨gs, hgs, rfl⟩ := Option.map_eq_some_iff.mp hk
      rw [numEq] at hsame
      exact ⟨gs, hgs, hsame⟩
    · rintro ⟨gs, hgs, hsame⟩
      refine ⟨object gs, by rw [reread, hgs]; rfl, ?_⟩
      rw [numEq, hsame]

theorem rereadItems_numEq_iff (items : List Json) :
    (∃ ks, rereadItems items = some ks ∧ itemsEq items ks = true) ↔
      ItemNumbers Number.Kept items := by
  cases items with
  | nil => simp [rereadItems, itemsEq, ItemNumbers]
  | cons j rest =>
    rw [ItemNumbers, ← reread_numEq_iff j, ← rereadItems_numEq_iff rest, rereadItems]
    constructor
    · rintro ⟨ks, hks, hsame⟩
      obtain ⟨k, hj, hks⟩ := Option.bind_eq_some_iff.mp hks
      obtain ⟨ks, hrest, rfl⟩ := Option.map_eq_some_iff.mp hks
      rw [itemsEq, Bool.and_eq_true] at hsame
      exact ⟨⟨k, hj, hsame.1⟩, ⟨ks, hrest, hsame.2⟩⟩
    · rintro ⟨⟨k, hj, hk⟩, ⟨ks, hrest, hks⟩⟩
      refine ⟨k :: ks, by rw [hj, hrest]; rfl, ?_⟩
      rw [itemsEq, hk, hks]
      rfl

theorem rereadFields_numEq_iff (fields : List (String × Json)) :
    (∃ gs, rereadFields fields = some gs ∧ fieldsEq fields gs = true) ↔
      FieldNumbers Number.Kept fields := by
  cases fields with
  | nil => simp [rereadFields, fieldsEq, FieldNumbers]
  | cons f rest =>
    obtain ⟨name, j⟩ := f
    rw [FieldNumbers, ← reread_numEq_iff j, ← rereadFields_numEq_iff rest, rereadFields]
    constructor
    · rintro ⟨gs, hgs, hsame⟩
      obtain ⟨k, hj, hgs⟩ := Option.bind_eq_some_iff.mp hgs
      obtain ⟨gs, hrest, rfl⟩ := Option.map_eq_some_iff.mp hgs
      simp only [fieldsEq, Bool.and_eq_true] at hsame
      exact ⟨⟨k, hj, hsame.1.2⟩, ⟨gs, hrest, hsame.2⟩⟩
    · rintro ⟨⟨k, hj, hk⟩, ⟨gs, hrest, hgs⟩⟩
      refine ⟨(name, k) :: gs, by rw [hj, hrest]; rfl, ?_⟩
      simp [fieldsEq, hk, hgs]

end

mutual

/-- A document without floats is read back as it is. -/
theorem reread_of_integers (j : Json) (h : j.Numbers Number.IsInteger) : j.reread = some j := by
  cases j with
  | null => rfl
  | bool b => rfl
  | string s => rfl
  | number n => rw [reread, h.reread, Option.map_some]
  | array items => rw [reread, rereadItems_of_integers items h, Option.map_some]
  | object fields => rw [reread, rereadFields_of_integers fields h, Option.map_some]

theorem rereadItems_of_integers (items : List Json) (h : ItemNumbers Number.IsInteger items) :
    rereadItems items = some items := by
  cases items with
  | nil => rfl
  | cons j rest =>
    rw [rereadItems, reread_of_integers j h.1, rereadItems_of_integers rest h.2]
    rfl

theorem rereadFields_of_integers (fields : List (String × Json))
    (h : FieldNumbers Number.IsInteger fields) : rereadFields fields = some fields := by
  cases fields with
  | nil => rfl
  | cons f rest =>
    obtain ⟨name, j⟩ := f
    rw [rereadFields, reread_of_integers j h.1, rereadFields_of_integers rest h.2]
    rfl

end

mutual

/-- Fields in their order stay in it. -/
theorem canonical_of_isCanonical (j : Json) (h : j.isCanonical = true) : j.canonical = j := by
  cases j with
  | null => rfl
  | bool b => rfl
  | string s => rfl
  | number n => rfl
  | array items => rw [canonical, canonicalItems_of_areCanonical items h]
  | object fields =>
    rw [isCanonical, Bool.and_eq_true] at h
    rw [canonical, canonicalFields_of_ascending fields h.1 h.2]

theorem canonicalItems_of_areCanonical (items : List Json) (h : areCanonical items = true) :
    canonicalItems items = items := by
  cases items with
  | nil => rfl
  | cons j rest =>
    rw [areCanonical, Bool.and_eq_true] at h
    rw [canonicalItems, canonical_of_isCanonical j h.1, canonicalItems_of_areCanonical rest h.2]

theorem canonicalFields_of_ascending (fields : List (String × Json))
    (hnames : ascending (fields.map Prod.fst) = true) (h : haveCanonical fields = true) :
    canonicalFields fields = fields := by
  cases fields with
  | nil => rfl
  | cons f rest =>
    obtain ⟨name, j⟩ := f
    rw [haveCanonical, Bool.and_eq_true] at h
    rw [List.map_cons, ascending_cons_iff] at hnames
    rw [canonicalFields, canonical_of_isCanonical j h.1,
      canonicalFields_of_ascending rest hnames.2 h.2]
    cases rest with
    | nil => rfl
    | cons g rest =>
      have hfirst : name < g.1 := hnames.1 g.1 rfl
      rw [insertField, if_pos hfirst]

end

mutual

/-- What is read back has its fields in the same order. -/
theorem isCanonical_reread (j : Json) {k : Json} (hk : j.reread = some k)
    (h : j.isCanonical = true) : k.isCanonical = true := by
  cases j with
  | null => cases hk; rfl
  | bool b => cases hk; rfl
  | string s => cases hk; rfl
  | number n =>
    obtain ⟨m, -, rfl⟩ := Option.map_eq_some_iff.mp hk
    rfl
  | array items =>
    obtain ⟨ks, hks, rfl⟩ := Option.map_eq_some_iff.mp hk
    exact areCanonical_rereadItems items hks h
  | object fields =>
    obtain ⟨gs, hgs, rfl⟩ := Option.map_eq_some_iff.mp hk
    rw [isCanonical, Bool.and_eq_true] at h ⊢
    obtain ⟨hnames, hcanonical⟩ := haveCanonical_rereadFields fields hgs h.2
    rw [hnames]
    exact ⟨h.1, hcanonical⟩

theorem areCanonical_rereadItems (items : List Json) {ks : List Json}
    (hks : rereadItems items = some ks) (h : areCanonical items = true) :
    areCanonical ks = true := by
  cases items with
  | nil => cases hks; rfl
  | cons j rest =>
    obtain ⟨k, hk, hks⟩ := Option.bind_eq_some_iff.mp hks
    obtain ⟨ks, hrest, rfl⟩ := Option.map_eq_some_iff.mp hks
    rw [areCanonical, Bool.and_eq_true] at h ⊢
    exact ⟨isCanonical_reread j hk h.1, areCanonical_rereadItems rest hrest h.2⟩

theorem haveCanonical_rereadFields (fields : List (String × Json)) {gs : List (String × Json)}
    (hgs : rereadFields fields = some gs) (h : haveCanonical fields = true) :
    gs.map Prod.fst = fields.map Prod.fst ∧ haveCanonical gs = true := by
  cases fields with
  | nil => cases hgs; exact ⟨rfl, rfl⟩
  | cons f rest =>
    obtain ⟨name, j⟩ := f
    obtain ⟨k, hk, hgs⟩ := Option.bind_eq_some_iff.mp hgs
    obtain ⟨gs, hrest, rfl⟩ := Option.map_eq_some_iff.mp hgs
    rw [haveCanonical, Bool.and_eq_true] at h ⊢
    obtain ⟨hnames, hcanonical⟩ := haveCanonical_rereadFields rest hrest h.2
    exact ⟨congrArg (name :: ·) hnames, isCanonical_reread j hk h.1, hcanonical⟩

end

/-- A document without floats equals itself; one with a float that is no number would not. -/
theorem numEq_self_of_integers (j : Json) (h : j.Numbers Number.IsInteger) :
    j.numEq j = true := by
  obtain ⟨k, hk, hsame⟩ := j.reread_numEq_iff.mpr (h.mono fun n hn => hn.kept)
  rw [j.reread_of_integers h] at hk
  obtain rfl := Option.some.inj hk
  exact hsame

/-- What is read back of a document is a document as it stands. -/
theorem content_document_reread (d : Document) {k : Json} (hk : d.content.reread = some k) :
    k.document.content = k :=
  canonical_of_isCanonical k (isCanonical_reread d.content hk d.canonical)

theorem document_content (d : Document) : d.content.document = d := by
  obtain ⟨j, hj⟩ := d
  simp only [document, canonical_of_isCanonical j hj]

theorem itemsDepth_numbers (ns : List Number) : itemsDepth (ns.map number) = 0 := by
  induction ns with
  | nil => rfl
  | cons n ns ih => rw [List.map_cons, itemsDepth, ih]; rfl

theorem itemNumbers_numbers {p : Number → Prop} {ns : List Number} (h : ∀ n ∈ ns, p n) :
    ItemNumbers p (ns.map number) := by
  induction ns with
  | nil => trivial
  | cons n ns ih =>
    rw [List.forall_mem_cons] at h
    exact ⟨h.1, ih h.2⟩

/-- An array of integers is read as it is. -/
theorem reads_integers {ns : List Number} (h : ∀ n ∈ ns, n.IsInteger) :
    Reads ('[' :: itemsText (ns.map number)) 1 (some (array (ns.map number))) := by
  have hreads := reads_text (array (ns.map number))
  rw [reread_of_integers (array (ns.map number)) (itemNumbers_numbers h), depth,
    itemsDepth_numbers] at hreads
  exact hreads

end BatchSql.Json
