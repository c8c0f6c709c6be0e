import ClassFormat.Listing.Contents
import ClassFormat.Pool.Reader
import ClassFormat.Proofs.Decoder.Ensures
import ClassFormat.Proofs.Text.Faults
import Mathlib.Data.List.Forall2

/-!
# How a pool is stored

A pool that is read consists of its count and of its constants, one behind the other, with nothing
between them. Each constant is stored as its tag and its content. The content of a text is not
determined by the text, as some characters can be spelled in several ways; that of any other
constant is, and a listing shows just these bytes.

## Main definitions

* `ClassFormat.Constant.Stored` — bytes that store a constant.

## Main results

* `ClassFormat.Constant.ensures_reader_stored` — a constant that is read passes bytes that store it.
* `ClassFormat.Pool.stored_of_reader` — a pool that is read passes its count and the bytes that
  store its constants, and nothing else.
-/

namespace ClassFormat

open Decoder hiding word split split_ok
open Record

namespace Constant

/-- The bytes store the constant: its tag and its content. The content of a text is a length and as
many bytes, which are decoded to the text. The content of any other constant is the one that a
listing shows. -/
def Stored : Constant → Bytes → Prop
  | utf8 text, bytes =>
    ∃ (length : UInt16) (encoded : Bytes) (reading : Modified.Reading),
      bytes = Kind.utf8.tag :: (Word.toBytes length ++ encoded) ∧ encoded.length = length.toNat ∧
        Modified.decode 0 encoded = .ok reading ∧ reading.text = text
  | constant, bytes =>
    bytes = constant.kind.tag :: constant.content ∧
      Contents.constantValue constant = Role.poolValue.piece (Hex.pairs constant.content)

variable {start : Cursor}

/-- The kind of a constant tells how long its content is, unless it is a text. -/
lemma contentLength?_kind {constant : Constant} (h : constant.kind ≠ .utf8) :
    constant.kind.contentLength? = some constant.content.length := by
  cases constant with
  | utf8 text => exact absurd rfl h
  | _ => rfl

/-- A constant that is no text is stored as its tag and its content. -/
lemma stored_of_kind_ne {constant : Constant} (h : constant.kind ≠ .utf8) :
    constant.Stored (constant.kind.tag :: constant.content) := by
  cases constant with
  | utf8 text => exact absurd rfl h
  | _ => exact ⟨rfl, rfl⟩

/-- A text that is read fills its window, and is the one that the bytes are decoded to wherever they
stand. -/
lemma ensures_textReader :
    Ensures textReader start fun text _ =>
      ∃ reading, Modified.decode 0 start.rest = .ok reading ∧ reading.text = text := by
  intro text htext
  have hshift : Modified.decode (0 + start.position) start.rest =
      (Modified.decode 0 start.rest).mapError (TextFault.displaced start.position) :=
        Modified.decode_add 0 _
  unfold textReader at htext
  rw [Nat.zero_add] at hshift
  rw [hshift] at htext
  cases hdecode : Modified.decode 0 start.rest with
  | ok reading =>
    rw [hdecode] at htext
    cases htext
    exact ⟨reading, rfl, rfl⟩
  | error fault =>
    rw [hdecode] at htext
    cases htext

/-- The content of any constant but a text is passed as it is stored. -/
lemma ensures_contentReader (index : Index) {kind : Kind} (hkind : kind ≠ .utf8) :
    Ensures (contentReader index kind) start fun constant c =>
      constant.kind = kind ∧ start.Passes constant.content c := by
  cases kind with
  | utf8 => exact absurd rfl hkind
  | integer | float | long | double | label =>
    exact ensures_word.bind fun value c _ hvalue => ensures_pure ⟨rfl, hvalue⟩
  | member | nameAndType | dynamic =>
    refine ensures_word.bind fun first c _ hfirst => ensures_word.bind fun second d _ hsecond => ?_
    exact ensures_pure ⟨rfl, hfirst.trans hsecond⟩
  | methodHandle =>
    refine ensures_word.bind fun code c _ hcode => ?_
    cases hkind : HandleKind.ofCode? code with
    | none => exact ensures_fail _
    | some kind =>
      refine ensures_word.bind fun reference d _ hreference => ensures_pure ⟨rfl, ?_⟩
      have hboth := hcode.trans hreference
      rw [Word.toBytes_byte, ← HandleKind.ofCode?_eq_some_iff.mp hkind] at hboth
      exact hboth

/-- What a window holds for a constant of a given kind is the whole content of the constant. -/
lemma ensures_window (index : Index) {kind : Kind} (hkind : kind ≠ .utf8) {window : Cursor}
    (hwindow : kind.contentLength? = some window.rest.length) :
    Ensures (contentReader index kind) window fun constant _ =>
      constant.kind = kind ∧ window.rest = constant.content := by
  refine (ensures_contentReader index hkind).imp ?_
  rintro constant c _ ⟨rfl, hpasses⟩
  have hlength := hwindow.symm.trans (contentLength?_kind hkind)
  have hrest := hpasses.rest_eq
  have hnil : c.rest = [] := by
    have htotal := congrArg List.length hrest
    rw [List.length_append, Option.some.inj hlength] at htotal
    exact List.length_eq_zero_iff.mp (by omega)
  rw [hnil, List.append_nil] at hrest
  exact ⟨rfl, hrest⟩

/-- Behind the tag of a text stand its length and as many bytes. -/
lemma ensures_behindTag_of_text (index : Index) :
    Ensures (do
      let window ← split (← lengthReader .utf8)
      let (constant, _) ← inside window (contentReader index .utf8)
      return constant) start fun constant c =>
        ∃ content, constant.Stored (Kind.utf8.tag :: content) ∧ start.Passes content c := by
  have hlength : Ensures (lengthReader .utf8) start fun length c =>
      ∃ found : UInt16, length = found.toNat ∧ start.Passes (Word.toBytes found) c :=
    ensures_word.bind fun found c _ hfound => ensures_pure ⟨found, rfl, hfound⟩
  refine hlength.bind ?_
  rintro _ c _ ⟨length, rfl, hpasses⟩
  refine (ensures_split _).bind ?_
  rintro window d _ ⟨_, hsize, hwindow⟩
  have htext : Ensures (contentReader index .utf8) window fun constant _ =>
      ∃ reading, Modified.decode 0 window.rest = .ok reading ∧ constant = .utf8 reading.text := by
    refine ensures_textReader.bind ?_
    rintro text _ _ ⟨reading, hdecode, rfl⟩
    exact ensures_pure ⟨reading, hdecode, rfl⟩
  refine ensures_bind fun found hfound => ?_
  obtain ⟨reading, hdecode, hconstant⟩ := ensures_inside htext found hfound
  refine ensures_pure ⟨Word.toBytes length ++ window.rest, ?_, hpasses.trans hwindow⟩
  rw [hconstant]
  exact ⟨length, window.rest, reading, rfl, hsize, hdecode, rfl⟩

/-- Behind the tag of any other constant stands the content that its kind has room for. -/
lemma ensures_behindTag (index : Index) {kind : Kind} (hkind : kind ≠ .utf8) :
    Ensures (do
      let window ← split (← lengthReader kind)
      let (constant, _) ← inside window (contentReader index kind)
      return constant) start fun constant c =>
        ∃ content, constant.Stored (kind.tag :: content) ∧ start.Passes content c := by
  obtain ⟨length, hlength⟩ : ∃ length, kind.contentLength? = some length := by
    cases kind with
    | utf8 => exact absurd rfl hkind
    | _ => exact ⟨_, rfl⟩
  have hread : Ensures (lengthReader kind) start fun found c => found = length ∧ c = start := by
    unfold lengthReader
    rw [hlength]
    exact ensures_pure ⟨rfl, rfl⟩
  refine hread.bind ?_
  rintro _ c _ ⟨rfl, rfl⟩
  refine (ensures_split _).bind ?_
  rintro window d _ ⟨_, rfl, hwindow⟩
  refine ensures_bind fun found hfound => ?_
  obtain ⟨rfl, hcontent⟩ := ensures_inside (ensures_window index hkind hlength) found hfound
  refine ensures_pure ⟨window.rest, ?_, hwindow⟩
  rw [hcontent]
  exact stored_of_kind_ne hkind

/-- A constant that is read passes bytes that store it. -/
theorem ensures_reader_stored (index : Index) :
    Ensures (Constant.reader index) start fun constant c =>
      ∃ bytes, constant.Stored bytes ∧ start.Passes bytes c := by
  unfold Constant.reader
  refine ensures_word.bind fun tag c _ htag => ?_
  cases hkind : Kind.ofTag? tag with
  | none => exact ensures_fail _
  | some kind =>
    have hwhole : ∀ (constant : Constant) (d : Cursor), c ≤ d →
        (∃ content, constant.Stored (kind.tag :: content) ∧ c.Passes content d) →
        ∃ bytes, constant.Stored bytes ∧ start.Passes bytes d := by
      rintro constant d _ ⟨content, hstored, hcontent⟩
      have hbytes := htag.trans hcontent
      rw [Word.toBytes_byte, ← Kind.ofTag?_eq_some_iff.mp hkind] at hbytes
      exact ⟨_, hstored, hbytes⟩
    -- a text says itself how long it is, the other kinds have a length of their own
    by_cases htext : kind = .utf8
    · subst htext
      exact (ensures_behindTag_of_text index).imp hwhole
    · exact (ensures_behindTag index htext).imp hwhole

end Constant

namespace Pool

variable {start : Cursor}

/-- The constants that stand in slots. -/
def constantsOf (slots : Array Slot) : List Constant :=
  slots.toList.filterMap Slot.constant?

/-- A further slot adds its constant, if it has one. -/
lemma constantsOf_push (slots : Array Slot) (slot : Slot) :
    constantsOf (slots.push slot) = constantsOf slots ++ slot.constant?.toList := by
  unfold constantsOf
  rw [Array.toList_push, List.filterMap_append]
  cases slot <;> rfl

/-- The constants that are listed are those that stand in the slots. -/
lemma map_snd_entries (pool : Pool) : pool.entries.map Prod.snd = constantsOf pool.slots := by
  unfold entries constantsOf
  rw [List.map_filterMap]
  conv_rhs => rw [← List.zipIdx_map_fst 1 pool.slots.toList, List.filterMap_map]
  refine congrArg (List.filterMap · _) (funext ?_)
  rintro ⟨slot, number⟩
  cases slot <;> rfl

/-- A slot passes the bytes that store its constant, or none. -/
lemma ensures_slotReader_stored (slots : Array Slot) :
    Ensures (slotReader slots) start fun slot c =>
      ∃ blocks, List.Forall₂ Constant.Stored slot.constant?.toList blocks ∧
        start.Passes blocks.flatten c := by
  unfold slotReader
  split
  · exact ensures_pure ⟨[], .nil, start.le_refl, rfl⟩
  · refine (ensures_located (Constant.ensures_reader_stored _)).bind ?_
    rintro constant c _ ⟨bytes, hstored, hpasses⟩
    refine (ensures_note _).bind ?_
    rintro _ c _ rfl
    refine ensures_pure ⟨[bytes], .cons hstored .nil, ?_⟩
    rw [List.flatten_singleton]
    exact hpasses

/-- Slots that are filled one after the other pass the bytes that store their constants.

**Proof sketch.** The constants of the slots so far are stored in the bytes that were passed so far,
block by block. A slot more adds a block, or nothing if it is a second half. -/
lemma ensures_grow_stored (count : Nat) :
    Ensures (grow count slotReader) start fun slots c => slots.size = count ∧
      ∃ blocks, List.Forall₂ Constant.Stored (constantsOf slots) blocks ∧
        start.Passes blocks.flatten c := by
  refine Ensures.grow ⟨[], .nil, start.le_refl, rfl⟩ ?_ count
  rintro slots c ⟨blocks, hstored, hpasses⟩
  refine (ensures_slotReader_stored slots).imp ?_
  rintro slot d _ ⟨more, hmore, hbehind⟩
  refine ⟨blocks ++ more, ?_, ?_⟩
  · rw [constantsOf_push]
    exact List.rel_append hstored hmore
  · rw [List.flatten_append]
    exact hpasses.trans hbehind

/-- **A pool is stored as its count and its constants.** A pool that is read passes the number of
its slots plus one, and then for each constant, in the order of their indices, its tag and its
content. So no byte of the pool is passed over or read for two constants, and what a listing shows
of a constant other than a text is what is stored of it.

**Proof sketch.** A constant is read in a window whose length is announced by its tag, or by the
text itself, and its content fills this window. Slots are filled in order, and second halves pass
nothing. -/
theorem stored_of_reader {pool : Pool} (h : (Pool.reader start).result = .ok pool) :
    ∃ (declared : UInt16) (blocks : List Bytes), declared.toNat = pool.size + 1 ∧
      List.Forall₂ (fun entry bytes => entry.2.Stored bytes) pool.entries blocks ∧
      start.Passes (Word.toBytes declared ++ blocks.flatten) (Pool.reader start).cursor := by
  suffices hreader : Ensures Pool.reader start fun pool c =>
      ∃ (declared : UInt16) (blocks : List Bytes), declared.toNat = pool.size + 1 ∧
        List.Forall₂ (fun entry bytes => entry.2.Stored bytes) pool.entries blocks ∧
        start.Passes (Word.toBytes declared ++ blocks.flatten) c from hreader pool h
  unfold Pool.reader
  refine ensures_position.bind ?_
  rintro _ start _ ⟨rfl, rfl⟩
  refine ensures_word.bind fun declared c _ hdeclared => ?_
  split
  · exact ensures_fail _
  · next hzero =>
    have hpositive : declared.toNat ≠ 0 := fun h => hzero (UInt16.toNat_inj.mp h)
    refine (ensures_grow_stored _).bind ?_
    rintro slots d _ ⟨hsize, blocks, hstored, hpasses⟩
    split
    · exact ensures_fail _
    · refine ensures_position.bind ?_
      rintro _ d _ ⟨rfl, rfl⟩
      refine (ensures_note _).bind ?_
      rintro _ d _ rfl
      refine ensures_pure ⟨declared, blocks, ?_, ?_, hdeclared.trans hpasses⟩
      · show declared.toNat = slots.size + 1
        omega
      · rw [← List.forall₂_map_left_iff, map_snd_entries]
        exact hstored

/-- A pool with a text that is not spelled in the shortest way, a double constant and a method
handle. -/
def overlongText : Bytes :=
  [0, 5, 1, 0, 2, 0xC1, 0x81, 6, 64, 9, 33, 251, 84, 68, 45, 24, 15, 6, 0, 9]

/-- A pool with an overlong text, a constant of two slots and a method handle that refers to
nothing. -/
theorem stored_of_reader_overlongText :
    ∃ pool, (Pool.reader (.ofBytes overlongText)).result = .ok pool ∧
      pool.entries =
        [(1, .utf8 "A"), (2, .double 0x400921FB54442D18), (4, .methodHandle .invokeStatic 9)] ∧
      ∃ (declared : UInt16) (blocks : List Bytes), declared.toNat = pool.size + 1 ∧
        List.Forall₂ (fun entry bytes => entry.2.Stored bytes) pool.entries blocks ∧
        (Cursor.ofBytes overlongText).Passes (Word.toBytes declared ++ blocks.flatten)
          (Pool.reader (.ofBytes overlongText)).cursor := by
  refine ⟨⟨#[.entry (.utf8 "A"), .entry (.double 0x400921FB54442D18), .upperHalf,
    .entry (.methodHandle .invokeStatic 9)], 20⟩, rfl, rfl, ?_⟩
  exact stored_of_reader rfl

end Pool

end ClassFormat
