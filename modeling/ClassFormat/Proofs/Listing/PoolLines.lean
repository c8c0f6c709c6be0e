import ClassFormat.Listing.Contents
import ClassFormat.Proofs.Bytes.Hex
import ClassFormat.Proofs.Listing.Plain
import ClassFormat.Proofs.Pool.Links
import ClassFormat.Proofs.RawClass.Pool

/-!
# The listing of a pool

Each constant of a pool has a line in the listing: its index, its kind, and its text or its bytes. A
text may hold anything, also what looks like another line, but it cannot leave its own line, because
its line ends are shown as a backslash and a letter. So a pool can be put together from its listing,
except that nobody can tell a line end in a text from the two characters that stand for it.

## Main definitions

* `ClassFormat.Constant.onOneLine`, `ClassFormat.Slot.onOneLine` — what a listing shows of a
  constant and a slot.

## Main results

* `ClassFormat.Pool.chars_constant_eq_iff` — a line determines the index and what is shown of the
  constant.
* `ClassFormat.Pool.Numbered.map_entries_eq_iff` — what is listed of a pool determines its slots.
* `ClassFormat.Pool.listing_of_reader` — the listing of a pool that was read.
-/

namespace ClassFormat

/-! ## What is shown of a constant -/

namespace Kind

/-- The list of kinds is complete. -/
lemma mem_all (kind : Kind) : kind ∈ all := by
  cases kind with
  | label kind => cases kind <;> decide
  | member kind => cases kind <;> decide
  | dynamic kind => cases kind <;> decide
  | _ => decide

/-- No two kinds have the same name. -/
lemma name_injective {a b : Kind} (h : a.name = b.name) : a = b := by
  have hnames : ∀ a ∈ all, ∀ b ∈ all, a.name = b.name → a = b := by decide
  exact hnames a a.mem_all b b.mem_all h

/-- The name of a kind holds nothing but letters and digits. -/
lemma isAlphanum_of_mem_name {kind : Kind} {c : Char} (h : c ∈ kind.name.toList) :
    c.isAlphanum = true := by
  have hnames : ∀ kind ∈ all, kind.name.toList.all Char.isAlphanum = true := by decide
  exact List.all_eq_true.mp (hnames kind kind.mem_all) c h

end Kind

namespace Constant

/-- The constant with the line ends of its text made visible, if it is a text. -/
def onOneLine : Constant → Constant
  | utf8 text => utf8 (Contents.oneLine text)
  | constant => constant

/-- Bringing a text on one line does not change what kind of constant it is. -/
lemma kind_onOneLine (constant : Constant) : constant.onOneLine.kind = constant.kind := by
  cases constant <;> rfl

/-- A constant that is no text stays as it is. -/
lemma onOneLine_of_not_isText {constant : Constant} (h : ¬constant.IsText) :
    constant.onOneLine = constant := by
  cases constant with
  | utf8 text => exact absurd trivial h
  | _ => rfl

/-- A constant that is no text is shown by its bytes. -/
lemma constantValue_of_not_isText {constant : Constant} (h : ¬constant.IsText) :
    (Contents.constantValue constant).text = Hex.pairs constant.content := by
  cases constant with
  | utf8 text => exact absurd trivial h
  | _ => rfl

/-- Texts are told from other constants by their kind. -/
lemma isText_iff {constant : Constant} : constant.IsText ↔ constant.kind = .utf8 := by
  cases constant <;> simp [IsText, kind]

/-- A constant other than a text is determined by its kind and its content, from which it is read
back. -/
lemma eq_of_content {a b : Constant} (h : ¬a.IsText) (hkind : a.kind = b.kind)
    (hcontent : a.content = b.content) : a = b := by
  have hb : ¬b.IsText := by rwa [isText_iff, ← hkind, ← isText_iff]
  have hread : (contentReader 0 a.kind (.ofBytes a.content)).result = .ok a :=
    (reads_contentReader 0 h List.prefix_rfl).1
  have hread' : (contentReader 0 b.kind (.ofBytes b.content)).result = .ok b :=
    (reads_contentReader 0 hb List.prefix_rfl).1
  rw [hkind, hcontent, hread'] at hread
  exact (Except.ok.inj hread).symm

/-- What is shown of a constant beside its kind determines the constant, but for the line ends of a
text. -/
lemma onOneLine_eq_iff {a b : Constant} :
    a.onOneLine = b.onOneLine ↔
      a.kind = b.kind ∧ (Contents.constantValue a).text = (Contents.constantValue b).text := by
  by_cases htext : a.IsText
  · cases a with
    | utf8 text => cases b <;> simp [onOneLine, kind, Contents.constantValue, Role.piece]
    | _ => exact htext.elim
  · rw [onOneLine_of_not_isText htext, constantValue_of_not_isText htext]
    constructor
    · intro heq
      have hkind : a.kind = b.kind := by rw [heq, kind_onOneLine]
      have hb : ¬b.IsText := by rwa [isText_iff, ← hkind, ← isText_iff]
      rw [onOneLine_of_not_isText hb] at heq
      rw [constantValue_of_not_isText hb, heq]
      exact ⟨rfl, rfl⟩
    · rintro ⟨hkind, hvalue⟩
      have hb : ¬b.IsText := by rwa [isText_iff, ← hkind, ← isText_iff]
      have hpairs : Hex.ofPairs? (Hex.pairs a.content).toList =
          Hex.ofPairs? (Hex.pairs b.content).toList := by
        rw [hvalue, constantValue_of_not_isText hb]
      rw [Hex.ofPairs?_pairs, Hex.ofPairs?_pairs] at hpairs
      rw [onOneLine_of_not_isText hb]
      exact eq_of_content htext hkind (Option.some.inj hpairs)

end Constant

/-- The slot with the line ends of its text made visible, if it holds a text. -/
def Slot.onOneLine : Slot → Slot
  | entry constant => entry constant.onOneLine
  | upperHalf => upperHalf

namespace Pool

/-! ## Lines -/

/-- What stands before the first separator of a text, and what stands behind it. -/
lemma append_separator_inj {separator : Char} {a b x y : List Char} (ha : separator ∉ a)
    (hb : separator ∉ b) (h : a ++ separator :: x = b ++ separator :: y) : a = b ∧ x = y := by
  induction a generalizing b with
  | nil =>
    cases b with
    | nil => exact ⟨rfl, (List.cons.inj h).2⟩
    | cons c b =>
      obtain ⟨rfl, -⟩ := List.cons.inj h
      exact absurd List.mem_cons_self hb
  | cons c a ih =>
    cases b with
    | nil =>
      obtain ⟨rfl, -⟩ := List.cons.inj h
      exact absurd List.mem_cons_self ha
    | cons d b =>
      obtain ⟨rfl, htail⟩ := List.cons.inj h
      obtain ⟨rfl, rfl⟩ :=
        ih (List.not_mem_of_not_mem_cons ha) (List.not_mem_of_not_mem_cons hb) htail
      exact ⟨rfl, rfl⟩

/-- The line of a constant: its index up to a colon, its kind up to a blank, and its value. -/
lemma chars_constant (index : Index) (constant : Constant) :
    Line.chars (Contents.constant index constant) =
      ' ' :: ' ' :: ((toString index.toNat).toList ++ ':' :: ' ' :: (constant.kind.name.toList ++
        ' ' :: '-' :: ' ' :: (Contents.constantValue constant).text.toList)) := by
  simp [Line.chars, Contents.constant, Piece.bare, Role.piece]

/-- A number is determined by its digits. -/
lemma eq_of_toString {a b : Nat} (h : toString a = toString b) : a = b := by
  have hdigits : Nat.toDigits 10 a = Nat.toDigits 10 b := by
    rw [← Nat.toList_repr, ← Nat.toList_repr, ← Nat.toString_eq_repr, ← Nat.toString_eq_repr, h]
  rw [← Nat.ofDigitChars_ten_toDigits (n := a), hdigits, Nat.ofDigitChars_ten_toDigits]

/-- **A line determines its index and what is shown of the constant.** -/
theorem chars_constant_eq_iff {index index' : Index} {constant constant' : Constant} :
    Line.chars (Contents.constant index constant) =
      Line.chars (Contents.constant index' constant') ↔
      index = index' ∧ constant.onOneLine = constant'.onOneLine := by
  rw [Constant.onOneLine_eq_iff, chars_constant, chars_constant]
  constructor
  · intro h
    simp only [List.cons.injEq, true_and] at h
    obtain ⟨hindex, hrest⟩ :=
      append_separator_inj (not_mem_toString (by decide) _) (not_mem_toString (by decide) _) h
    have hblank : ∀ kind : Kind, ' ' ∉ kind.name.toList :=
      fun kind hmem => absurd (Kind.isAlphanum_of_mem_name hmem) (by decide)
    obtain ⟨hname, hvalue⟩ := append_separator_inj (hblank _) (hblank _) (List.cons.inj hrest).2
    simp only [List.cons.injEq, true_and] at hvalue
    refine ⟨UInt16.toNat_inj.mp (eq_of_toString (String.toList_inj.mp hindex)), ?_,
      String.toList_inj.mp hvalue⟩
    exact Kind.name_injective (String.toList_inj.mp hname)
  · rintro ⟨rfl, hkind, hvalue⟩
    rw [hkind, hvalue]

/-- A text with its line ends made visible stays on one line. -/
lemma newline_not_mem_oneLine (text : String) : '\n' ∉ (Contents.oneLine text).toList := by
  rw [Contents.oneLine, String.toList_ofList, List.mem_flatMap]
  rintro ⟨c, -, hc⟩
  split at hc
  · revert hc
    decide
  · next hne => exact hne (List.mem_singleton.mp hc).symm

/-- A line holds no line end, whatever the text of its constant. -/
lemma newline_not_mem_constant (index : Index) (constant : Constant) :
    '\n' ∉ Line.chars (Contents.constant index constant) := by
  have hdigits : '\n' ∉ (toString index.toNat).toList := not_mem_toString (by decide) _
  have hname : '\n' ∉ constant.kind.name.toList :=
    fun hmem => absurd (Kind.isAlphanum_of_mem_name hmem) (by decide)
  have hvalue : '\n' ∉ (Contents.constantValue constant).text.toList := by
    by_cases htext : constant.IsText
    · cases constant with
      | utf8 text => exact newline_not_mem_oneLine text
      | _ => exact htext.elim
    · rw [Constant.constantValue_of_not_isText htext]
      exact fun hmem => absurd (Hex.isAlphanum_of_mem_pairs hmem) (by decide)
  rw [chars_constant]
  simpa [hname, hvalue] using hdigits

/-- If two functions tell the same values apart, they tell the same lists apart. -/
lemma map_eq_map_congr {α β γ : Type} {f : α → β} {g : α → γ} (h : ∀ a b, f a = f b ↔ g a = g b)
    {l l' : List α} : l.map f = l'.map f ↔ l.map g = l'.map g := by
  induction l generalizing l' with
  | nil => cases l' <;> simp
  | cons a l ih =>
    cases l' with
    | nil => simp
    | cons b l' => simp [h a b, ih]

/-- The lines of a pool: its heading, and one for each constant. -/
lemma map_chars_pool (pool : Pool) :
    (Contents.pool pool).map Line.chars = "Constant pool dump:".toList ::
      pool.entries.map fun (index, constant) => Line.chars (Contents.constant index constant) := by
  simp [Contents.pool, Contents.heading, Line.chars, Role.piece, Function.comp_def]

/-- No line of the constant pool breaks in its middle. -/
lemma newline_not_mem_pool (pool : Pool) : ∀ line ∈ Contents.pool pool, '\n' ∉ Line.chars line := by
  intro line hline
  rcases List.mem_cons.mp hline with rfl | hmem
  · decide
  · obtain ⟨entry, -, rfl⟩ := List.mem_map.mp hmem
    exact newline_not_mem_constant entry.1 entry.2

/-! ## Slots from lines -/

section Slots

variable {pool pool' : Pool} {declared declared' : UInt16}

/-- What is listed of a pool is what its slots show. -/
lemma map_entries (pool : Pool) :
    pool.entries.map (Prod.map id Constant.onOneLine) =
      entries { pool with slots := pool.slots.map Slot.onOneLine } := by
  unfold entries
  rw [Array.toList_map, List.zipIdx_map, List.filterMap_map, List.map_filterMap]
  refine congrArg (List.filterMap · _) (funext ?_)
  rintro ⟨slot, number⟩
  cases slot <;> rfl

/-- A constant of one pool that is listed for another one too stands in the same slot there. -/
lemma Numbered.exists_getElem?_eq_entry (h : pool.Numbered declared) (h' : pool'.Numbered declared')
    (hlisted : pool.entries.map (Prod.map id Constant.onOneLine) =
      pool'.entries.map (Prod.map id Constant.onOneLine))
    {place : Nat} {constant : Constant} (hslot : pool.slots[place]? = some (.entry constant)) :
    ∃ constant', pool'.slots[place]? = some (.entry constant') ∧
      constant'.onOneLine = constant.onOneLine := by
  have hmem : (UInt16.ofNat (place + 1), constant.onOneLine) ∈
      pool.entries.map (Prod.map id Constant.onOneLine) :=
    List.mem_map.mpr
      ⟨(UInt16.ofNat (place + 1), constant), mem_entries_iff_exists.mpr ⟨place, hslot, rfl⟩, rfl⟩
  rw [hlisted] at hmem
  obtain ⟨⟨index, constant'⟩, hentry, heq⟩ := List.mem_map.mp hmem
  obtain ⟨hindex, hconstant⟩ := Prod.mk.inj heq
  obtain ⟨place', hslot', hindex'⟩ := mem_entries_iff_exists.mp hentry
  have hlt : place < pool.size := (Array.getElem?_eq_some_iff.mp hslot).1
  have hlt' : place' < pool'.size := (Array.getElem?_eq_some_iff.mp hslot').1
  have hsize := h.size
  have hsize' := h'.size
  have hplace : place' + 1 = place + 1 := by
    have hdeclared : declared.toNat < UInt16.size := declared.toNat_lt
    have hdeclared' : declared'.toNat < UInt16.size := declared'.toNat_lt
    rw [← UInt16.toNat_ofNat_of_lt' (show place' + 1 < UInt16.size by omega), ← hindex',
      ← UInt16.toNat_ofNat_of_lt' (show place + 1 < UInt16.size by omega), ← hindex]
    rfl
  obtain rfl : place' = place := Nat.succ.inj hplace
  exact ⟨constant', hslot', hconstant⟩

/-- A slot of one pool stands in another one too, if the same is listed for both: second halves are
not listed, but they stand exactly behind wide constants. -/
lemma Numbered.map_getElem?_of_some (h : pool.Numbered declared) (h' : pool'.Numbered declared')
    (hlisted : pool.entries.map (Prod.map id Constant.onOneLine) =
      pool'.entries.map (Prod.map id Constant.onOneLine))
    {place : Nat} {slot : Slot} (hslot : pool.slots[place]? = some slot) :
    pool'.slots[place]?.map Slot.onOneLine = some slot.onOneLine := by
  cases slot with
  | entry constant =>
    obtain ⟨constant', hslot', heq⟩ := h.exists_getElem?_eq_entry h' hlisted hslot
    simp [hslot', Slot.onOneLine, heq]
  | upperHalf =>
    cases place with
    | zero => exact absurd hslot h.first
    | succ before =>
      obtain ⟨constant, hbefore, hkind⟩ := (h.upperHalf_iff before).mp hslot
      obtain ⟨constant', hbefore', heq⟩ := h.exists_getElem?_eq_entry h' hlisted hbefore
      rw [← constant.kind_onOneLine, ← heq, constant'.kind_onOneLine] at hkind
      rw [(h'.upperHalf_iff before).mpr ⟨constant', hbefore', hkind⟩]
      rfl

/-- **What is listed of a pool determines its slots.** -/
theorem Numbered.map_entries_eq_iff (h : pool.Numbered declared) (h' : pool'.Numbered declared') :
    pool.entries.map (Prod.map id Constant.onOneLine) =
      pool'.entries.map (Prod.map id Constant.onOneLine) ↔
      pool.slots.map Slot.onOneLine = pool'.slots.map Slot.onOneLine := by
  constructor
  · intro hlisted
    refine Array.ext_getElem? fun place => ?_
    rw [Array.getElem?_map, Array.getElem?_map]
    cases hslot : pool.slots[place]? with
    | some slot => exact (h.map_getElem?_of_some h' hlisted hslot).symm
    | none =>
      cases hslot' : pool'.slots[place]? with
      | none => rfl
      | some slot' =>
        have hfound := h'.map_getElem?_of_some h hlisted.symm hslot'
        rw [hslot] at hfound
        cases hfound
  · intro hslots
    rw [map_entries, map_entries, hslots]
    rfl

/-- Pools have the same listing exactly if the same is listed for all their constants. -/
lemma render_pool_eq_iff :
    Palette.plain.render (Contents.pool pool) = Palette.plain.render (Contents.pool pool') ↔
      pool.entries.map (Prod.map id Constant.onOneLine) =
        pool'.entries.map (Prod.map id Constant.onOneLine) := by
  rw [render_eq_iff pool.newline_not_mem_pool pool'.newline_not_mem_pool, map_chars_pool,
    map_chars_pool, List.cons.injEq, and_iff_right rfl]
  refine map_eq_map_congr ?_
  rintro ⟨index, constant⟩ ⟨index', constant'⟩
  rw [chars_constant_eq_iff]
  simp

end Slots

/-- **The listing of a pool determines the pool**, but for line ends in texts. Two pools that were
read have the same listing exactly if they have as many slots and the same constant in each of them,
where texts are only compared after each line end is replaced by a backslash and the letter n. And
the listing has one line behind its heading for each constant that an index finds, in the order of
the indices, whatever the texts are.

**Proof sketch.** No line holds a line end, so the lines can be told apart. A line shows the index
up to the first colon, the kind up to the next blank, and then the text or the content, from which a
constant of this kind is read back. Second halves are not listed, but stand exactly behind wide
constants. -/
theorem listing_of_reader {start start' : Cursor} {pool pool' : Pool}
    (h : (reader start).result = .ok pool) (h' : (reader start').result = .ok pool') :
    (Palette.plain.render (Contents.pool pool) = Palette.plain.render (Contents.pool pool') ↔
      pool.size = pool'.size ∧
        ∀ place : Nat,
          pool.slots[place]?.map Slot.onOneLine = pool'.slots[place]?.map Slot.onOneLine) ∧
    linesOf (Palette.plain.render (Contents.pool pool)) = "Constant pool dump:".toList ::
      (pool.entries.map fun (index, constant) => Line.chars (Contents.constant index constant)) ∧
    (∀ index constant, (index, constant) ∈ pool.entries ↔ pool.get index = .ok constant) ∧
    pool.entries.Pairwise fun a b => a.1 < b.1 := by
  obtain ⟨declared, hnumbered⟩ := exists_numbered_of_reader h
  obtain ⟨declared', hnumbered'⟩ := exists_numbered_of_reader h'
  refine ⟨?_, ?_, fun index constant => hnumbered.entries (index, constant), hnumbered.increasing⟩
  · rw [render_pool_eq_iff, hnumbered.map_entries_eq_iff hnumbered']
    constructor
    · intro hslots
      refine ⟨?_, fun place => ?_⟩
      · simpa [size] using congrArg Array.size hslots
      · rw [← Array.getElem?_map, hslots, Array.getElem?_map]
    · rintro ⟨-, hslots⟩
      refine Array.ext_getElem? fun place => ?_
      rw [Array.getElem?_map, hslots, Array.getElem?_map]
  · rw [linesOf_render pool.newline_not_mem_pool, map_chars_pool]

/-- A pool with a long constant and a text, which is given by its length and its bytes. -/
def longAndText (text : Bytes) : Bytes :=
  [0, 4, 5, 0, 0, 0, 0, 0, 0, 0, 7, 1] ++ text

/-- A line end in a text and the two characters that stand for it are listed alike. -/
theorem listing_of_reader_twoLines :
    ∃ pool pool', (reader (.ofBytes (longAndText [0, 3, 97, 10, 98]))).result = .ok pool ∧
      (reader (.ofBytes (longAndText [0, 4, 97, 92, 110, 98]))).result = .ok pool' ∧
      pool.slots = #[.entry (.long 7), .upperHalf, .entry (.utf8 "a\nb")] ∧
      pool'.slots = #[.entry (.long 7), .upperHalf, .entry (.utf8 "a\\nb")] ∧
      Palette.plain.render (Contents.pool pool) = Palette.plain.render (Contents.pool pool') := by
  have hlineEnd : (reader (.ofBytes (longAndText [0, 3, 97, 10, 98]))).result =
      .ok ⟨#[.entry (.long 7), .upperHalf, .entry (.utf8 "a\nb")], 17⟩ := rfl
  have hbackslash : (reader (.ofBytes (longAndText [0, 4, 97, 92, 110, 98]))).result =
      .ok ⟨#[.entry (.long 7), .upperHalf, .entry (.utf8 "a\\nb")], 18⟩ := rfl
  refine ⟨_, _, hlineEnd, hbackslash, rfl, rfl, ?_⟩
  refine (listing_of_reader hlineEnd hbackslash).1.mpr ⟨rfl, fun place => ?_⟩
  rcases place with _ | _ | _ | place <;> rfl

end Pool

end ClassFormat
