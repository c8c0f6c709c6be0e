import ClassFormat.Descriptor.Signature
import Mathlib.Data.List.TakeWhile
import Mathlib.Tactic.Lemma

/-!
# The grammar of descriptors

Not every type has a text that can be read: there are no arrays of nothing, and the name of a class
is not empty and does not hold the semicolon that ends it. The types that keep to this are read back
from their texts, whatever follows, and nothing else is read. So it does not matter that the name of
a class may hold parentheses and brackets: where it ends is settled before they are looked at.

## Main definitions

* `ClassFormat.TypeDescriptor.WellFormed`, `ClassFormat.Signature.WellFormed` — types and signatures
  with a text.

## Main results

* `ClassFormat.TypeDescriptor.read?_eq_some_iff` — a type is read off the front of a text exactly if
  the text begins with that of the type.
* `ClassFormat.TypeDescriptor.parse_of_toList_eq`, `ClassFormat.Signature.parse_of_toList_eq` —
  types and signatures are read back from their texts.
* `ClassFormat.TypeDescriptor.read?_iff_encode` — the types and their texts, none of which begins
  another.
* `ClassFormat.Signature.isVoid_of_parse` — a signature that is read has no void parameter.
* `ClassFormat.Signature.parse_eq_ok_iff_encode` — the signatures and their texts.
-/

namespace ClassFormat

/-- The primitive type that is found for a letter has that letter. -/
lemma Primitive.letter_of_ofLetter? {letter : Char} {primitive : Primitive}
    (h : ofLetter? letter = some primitive) : primitive.letter = letter := by
  simpa using List.find?_some h

namespace TypeDescriptor

/-- A type with a text: nothing has no dimensions, and a class has a name without a semicolon. -/
def WellFormed (type : TypeDescriptor) : Prop :=
  match type.base with
  | .primitive _ => True
  | .void => type.dimensions = 0
  | .object name => name ≠ "" ∧ ';' ∉ name.toList

/-- Whether a type has a text depends on its base type, and is checked there. -/
instance (type : TypeDescriptor) : Decidable type.WellFormed :=
  match h : type.base with
  | .primitive _ => isTrue (by simp [WellFormed, h])
  | .void => decidable_of_iff (type.dimensions = 0) (by simp [WellFormed, h])
  | .object name => decidable_of_iff (name ≠ "" ∧ ';' ∉ name.toList) (by simp [WellFormed, h])

/-- A base type begins with a letter, so neither with a bracket nor with a parenthesis. -/
lemma exists_encodeBase_eq_cons (base : BaseType) :
    ∃ letter rest, encodeBase base = letter :: rest ∧ letter ≠ '[' ∧ letter ≠ ')' := by
  cases base with
  | primitive primitive =>
    exact ⟨_, _, rfl, by cases primitive <;> decide, by cases primitive <;> decide⟩
  | void => exact ⟨_, _, rfl, by decide, by decide⟩
  | object name => exact ⟨_, _, rfl, by decide, by decide⟩

/-- A base type is read off the front of a text. -/
lemma readBase?_encodeBase_append {type : TypeDescriptor} (h : type.WellFormed) (rest : List Char) :
    readBase? type.dimensions (encodeBase type.base ++ rest) = some (type.base, rest) := by
  obtain ⟨dimensions, base⟩ := type
  cases base with
  | primitive primitive => cases primitive <;> rfl
  | void =>
    have hzero : dimensions = 0 := h
    rw [hzero]
    rfl
  | object name =>
    obtain ⟨hname, hsemicolon⟩ : name ≠ "" ∧ ';' ∉ name.toList := h
    have hall : ∀ c ∈ name.toList, decide (c ≠ ';') = true := by
      intro c hc
      exact decide_eq_true fun heq => hsemicolon (heq ▸ hc)
    have htake : (name.toList ++ ';' :: rest).takeWhile (· ≠ ';') = name.toList := by
      rw [List.takeWhile_append_of_pos hall]
      simp
    have hdrop : (name.toList ++ ';' :: rest).dropWhile (· ≠ ';') = ';' :: rest := by
      rw [List.dropWhile_append_of_pos hall]
      simp
    have hnonempty : name.toList.isEmpty = false := by
      rw [List.isEmpty_eq_false_iff]
      exact fun hnil => hname (String.toList_eq_nil_iff.mp hnil)
    have htext : encodeBase (.object name) ++ rest = 'L' :: (name.toList ++ ';' :: rest) := by
      simp [encodeBase]
    rw [htext, readBase?]
    simp only [htake, hdrop, hnonempty, String.ofList_toList]
    rfl

/-- A type is read off the front of a text, whatever follows.

**Proof sketch.** The brackets end where the base type begins, since that begins with a letter. -/
theorem read?_encode_append {type : TypeDescriptor} (h : type.WellFormed) (rest : List Char) :
    read? (type.encode ++ rest) = some (type, rest) := by
  obtain ⟨letter, tail, hbase, hbracket, _⟩ := exists_encodeBase_eq_cons type.base
  have hall : ∀ c ∈ List.replicate type.dimensions '[', decide (c = '[') = true := by
    intro c hc
    exact decide_eq_true (List.eq_of_mem_replicate hc)
  have htext : type.encode ++ rest =
      List.replicate type.dimensions '[' ++ (encodeBase type.base ++ rest) := by
    rw [encode, List.append_assoc]
  have htake : (type.encode ++ rest).takeWhile (· = '[') = List.replicate type.dimensions '[' := by
    rw [htext, List.takeWhile_append_of_pos hall, hbase, List.cons_append,
      List.takeWhile_cons_of_neg (by simpa using hbracket), List.append_nil]
  have hdrop : (type.encode ++ rest).dropWhile (· = '[') = encodeBase type.base ++ rest := by
    rw [htext, List.dropWhile_append_of_pos hall, hbase, List.cons_append,
      List.dropWhile_cons_of_neg (by simpa using hbracket)]
  rw [read?]
  simp only [htake, hdrop, List.length_replicate, readBase?_encodeBase_append h]
  rfl

/-- What stands before the first semicolon of a text. -/
lemma eq_of_dropWhile_eq_cons {text after : List Char} {semicolon : Char}
    (h : text.dropWhile (· ≠ ';') = semicolon :: after) :
    text = text.takeWhile (· ≠ ';') ++ ';' :: after ∧ ';' ∉ text.takeWhile (· ≠ ';') := by
  have hsemicolon : semicolon = ';' := by
    have hfirst := List.head?_dropWhile_not (fun c => decide (c ≠ ';')) text
    rw [h] at hfirst
    simpa using hfirst
  constructor
  · have hsplit : text.takeWhile (· ≠ ';') ++ text.dropWhile (· ≠ ';') = text :=
      List.takeWhile_append_dropWhile
    rw [h, hsemicolon] at hsplit
    exact hsplit.symm
  · intro hmem
    simpa using List.mem_takeWhile_imp hmem

/-- What is read off the front of a text as a base type is the text of this type. -/
lemma eq_of_readBase? {dimensions : Nat} {text rest : List Char} {base : BaseType}
    (h : readBase? dimensions text = some (base, rest)) :
    WellFormed ⟨dimensions, base⟩ ∧ text = encodeBase base ++ rest := by
  unfold readBase? at h
  split at h
  · cases h
  · split at h
    · next hzero =>
      cases h
      exact ⟨hzero, rfl⟩
    · cases h
  · next tail =>
    split at h
    · cases h
    · next semicolon after hdrop =>
      obtain ⟨hname, hsemicolon⟩ := eq_of_dropWhile_eq_cons hdrop
      dsimp only at h
      split at h
      · cases h
      · next hnonempty =>
        cases h
        refine ⟨⟨?_, by rwa [String.toList_ofList]⟩, ?_⟩
        · simpa [← String.toList_eq_nil_iff] using hnonempty
        · calc 'L' :: tail = 'L' :: (tail.takeWhile (· ≠ ';') ++ ';' :: rest) := by rw [← hname]
            _ = _ := by simp [encodeBase]
  · next letter tail _ _ =>
    obtain ⟨primitive, hprimitive, heq⟩ := Option.map_eq_some_iff.mp h
    cases heq
    rw [← Primitive.letter_of_ofLetter? hprimitive]
    exact ⟨trivial, rfl⟩

/-- What is read off the front of a text as a type is the text of this type. -/
lemma eq_of_read? {text rest : List Char} {type : TypeDescriptor}
    (h : read? text = some (type, rest)) : type.WellFormed ∧ text = type.encode ++ rest := by
  obtain ⟨⟨base, tail⟩, hbase, heq⟩ := Option.map_eq_some_iff.mp h
  cases heq
  obtain ⟨hformed, hdrop⟩ := eq_of_readBase? hbase
  have hbrackets :
      text.takeWhile (· = '[') = List.replicate (text.takeWhile (· = '[')).length '[' :=
    List.eq_replicate_of_mem fun c hc => by simpa using List.mem_takeWhile_imp hc
  refine ⟨hformed, ?_⟩
  calc text = text.takeWhile (· = '[') ++ text.dropWhile (· = '[') :=
        List.takeWhile_append_dropWhile.symm
    _ = _ := by rw [hdrop, encode, ← hbrackets, List.append_assoc]

/-- A type is read off the front of a text exactly if the text begins with its encoding. -/
theorem read?_eq_some_iff {text rest : List Char} {type : TypeDescriptor} :
    read? text = some (type, rest) ↔ type.WellFormed ∧ text = type.encode ++ rest := by
  constructor
  · exact eq_of_read?
  · rintro ⟨hformed, rfl⟩
    exact read?_encode_append hformed rest

/-- A type is read back from its text. -/
theorem parse_of_toList_eq {type : TypeDescriptor} (h : type.WellFormed) {text : String}
    (htext : text.toList = type.encode) : parse text = .ok type := by
  have hread := read?_encode_append h []
  rw [List.append_nil] at hread
  rw [parse, htext, hread]

/-- A type whose whole text is read has no rest behind it. -/
lemma eq_of_parse {text : String} {type : TypeDescriptor} (h : parse text = .ok type) :
    type.WellFormed ∧ text.toList = type.encode := by
  unfold parse at h
  split at h
  · next found hread =>
    cases h
    obtain ⟨hformed, htext⟩ := eq_of_read? hread
    exact ⟨hformed, by rw [htext, List.append_nil]⟩
  · cases h

/-- **Types and their texts.** A type is read off the front of a text exactly if the text begins
with that of the type: a bracket for each dimension, and then a letter, or the name of a class up to
a semicolon. No text of a type begins that of another one, so there is never a choice where to stop.
A text is a type as a whole exactly if it is the text of this type, and one that belongs to none is
refused as a whole.

**Proof sketch.** If one text begins another, what stands behind it is the rest that is left by
reading the longer one; but that is read to its end. -/
theorem read?_iff_encode :
    (∀ (text rest : List Char) (type : TypeDescriptor),
      read? text = some (type, rest) ↔ text = type.encode ++ rest ∧ type.WellFormed) ∧
    (∀ a b : TypeDescriptor, a.WellFormed → b.WellFormed → a.encode <+: b.encode → a = b) ∧
    ∀ text : String,
      (∀ type, parse text = .ok type ↔ text.toList = type.encode ∧ type.WellFormed) ∧
      ((∀ type : TypeDescriptor, type.WellFormed → text.toList ≠ type.encode) →
        parse text = .error (.invalidDescriptor text)) := by
  refine ⟨fun text rest type => ?_, fun a b ha hb hprefix => ?_,
    fun text => ⟨fun type => ?_, fun hnone => ?_⟩⟩
  · rw [read?_eq_some_iff, and_comm]
  · obtain ⟨rest, hrest⟩ := hprefix
    have hread := read?_encode_append ha rest
    have hwhole := read?_encode_append hb []
    rw [hrest] at hread
    rw [List.append_nil, hread] at hwhole
    exact (Prod.mk.inj (Option.some.inj hwhole)).1
  · constructor
    · intro hparse
      exact (eq_of_parse hparse).symm
    · rintro ⟨htext, hformed⟩
      exact parse_of_toList_eq hformed htext
  · cases hresult : parse text with
    | ok type =>
      obtain ⟨hformed, htext⟩ := eq_of_parse hresult
      exact absurd htext (hnone type hformed)
    | error fault => rw [eq_of_parse_error hresult]

/-- A class whose name is one character of two bytes, and behind it a bracket and a semicolon. -/
theorem read?_iff_encode_accent :
    read? "[[Lé;[;".toList = some (⟨2, .object "é"⟩, ['[', ';']) ∧
      parse "[[Lé;" = .ok ⟨2, .object "é"⟩ ∧
      parse "[[Lé;[;" = .error (.invalidDescriptor "[[Lé;[;") := by
  obtain ⟨hread, -, hparse⟩ := read?_iff_encode
  have hfront : read? "[[Lé;[;".toList = some (⟨2, .object "é"⟩, ['[', ';']) :=
    (hread _ _ _).mpr ⟨by decide, by decide⟩
  refine ⟨hfront, ((hparse _).1 _).mpr ⟨by decide, by decide⟩,
    (hparse _).2 fun type hformed htext => ?_⟩
  have hwhole := (hread _ [] type).mpr ⟨htext.trans (List.append_nil _).symm, hformed⟩
  rw [hfront] at hwhole
  cases hwhole

end TypeDescriptor

namespace Signature

/-- A signature with a text: all its types have one, and no parameter is void. -/
def WellFormed (signature : Signature) : Prop :=
  (∀ param ∈ signature.params, param.WellFormed ∧ param.isVoid = false) ∧
  signature.result.WellFormed

/-- Whether a signature has a text is checked type by type. -/
instance (signature : Signature) : Decidable signature.WellFormed :=
  inferInstanceAs (Decidable (_ ∧ _))

/-- One parameter is read off the front of a text. -/
lemma readParams?_encode_append {param : TypeDescriptor} (h : param.WellFormed)
    (hvoid : param.isVoid = false) (done : List TypeDescriptor) (rest : List Char) :
    readParams? done (param.encode ++ rest) = readParams? (param :: done) rest := by
  have hread := TypeDescriptor.read?_encode_append h rest
  have hclose : ∀ after, param.encode ++ rest ≠ ')' :: after := by
    intro after heq
    rw [heq] at hread
    cases hread
  rw [readParams?]
  · split
    · next type after heq =>
      rw [hread] at heq
      cases heq
      rw [if_neg (by simp [hvoid])]
    · next heq =>
      rw [hread] at heq
      cases heq
  · exact hclose

/-- Parameters are read up to the closing parenthesis. -/
lemma readParams?_flatMap_append {params : List TypeDescriptor}
    (h : ∀ param ∈ params, param.WellFormed ∧ param.isVoid = false) (done : List TypeDescriptor)
    (rest : List Char) :
    readParams? done (params.flatMap TypeDescriptor.encode ++ ')' :: rest) =
      some (done.reverse ++ params, rest) := by
  induction params generalizing done with
  | nil =>
    rw [List.flatMap_nil, List.nil_append, readParams?, List.append_nil]
  | cons param params ih =>
    obtain ⟨hparam, hvoid⟩ := h param List.mem_cons_self
    rw [List.flatMap_cons, List.append_assoc, readParams?_encode_append hparam hvoid,
      ih fun other hother => h other (List.mem_cons_of_mem _ hother)]
    simp

/-- Parameters that are read stand before the closing parenthesis, one behind the other. -/
lemma eq_of_readParams? {done params : List TypeDescriptor} {text rest : List Char}
    (h : readParams? done text = some (params, rest)) :
    ∃ further, params = done.reverse ++ further ∧
      (∀ param ∈ further, param.WellFormed ∧ param.isVoid = false) ∧
      text = further.flatMap TypeDescriptor.encode ++ ')' :: rest := by
  fun_induction readParams? done text with
  | case1 done after =>
    cases h
    exact ⟨[], (List.append_nil _).symm, nofun, rfl⟩
  | case3 done text _ type after hread _ hvoid ih =>
    obtain ⟨further, rfl, hfurther, rfl⟩ := ih h
    obtain ⟨hformed, rfl⟩ := TypeDescriptor.read?_eq_some_iff.mp hread
    refine ⟨type :: further, by simp, ?_, by simp⟩
    exact List.forall_mem_cons.mpr ⟨⟨hformed, Bool.eq_false_iff.mpr hvoid⟩, hfurther⟩
  | case2 | case4 => cases h

/-- A signature is read back from its characters. -/
lemma read?_encode {signature : Signature} (h : signature.WellFormed) :
    read? signature.encode = some signature := by
  have hparams := readParams?_flatMap_append h.1 [] signature.result.encode
  have hresult := TypeDescriptor.read?_encode_append h.2 []
  rw [List.append_nil] at hresult
  rw [encode, List.cons_append, read?, hparams]
  simp only [hresult]
  rfl

/-- Characters that are read as a signature are those of its text. -/
lemma eq_of_read? {text : List Char} {signature : Signature} (h : read? text = some signature) :
    signature.WellFormed ∧ text = signature.encode := by
  unfold read? at h
  split at h
  · split at h
    · next params rest hparams =>
      split at h
      · next result hresult =>
        cases h
        obtain ⟨further, rfl, hfurther, rfl⟩ := eq_of_readParams? hparams
        obtain ⟨hformed, rfl⟩ := TypeDescriptor.read?_eq_some_iff.mp hresult
        exact ⟨⟨hfurther, hformed⟩, by simp [encode]⟩
      · cases h
    · cases h
  · cases h

/-- A text is a signature if its characters are read as one. -/
lemma parse_eq_ok_iff_read? {text : String} {signature : Signature} :
    parse text = .ok signature ↔ read? text.toList = some signature := by
  unfold parse
  cases read? text.toList <;> simp

/-- No parameter of a signature that is read is void. -/
theorem isVoid_of_parse {text : String} {signature : Signature} (h : parse text = .ok signature) :
    ∀ param ∈ signature.params, param.isVoid = false := by
  obtain ⟨hformed, -⟩ := eq_of_read? (parse_eq_ok_iff_read?.mp h)
  exact fun param hparam => (hformed.1 param hparam).2

/-- A signature is read back from its text. -/
theorem parse_of_toList_eq {signature : Signature} (h : signature.WellFormed) {text : String}
    (htext : text.toList = signature.encode) : parse text = .ok signature := by
  rw [parse_eq_ok_iff_read?, htext]
  exact read?_encode h

/-- **Signatures and their texts.** A text is read as a signature exactly if it is the text of this
signature: its parameters in parentheses, none of them void, and its result behind them. No text
belongs to two signatures, and one that belongs to none is refused as a whole. -/
theorem parse_eq_ok_iff_encode (text : String) :
    (∀ signature, parse text = .ok signature ↔
      signature.WellFormed ∧ text.toList = signature.encode) ∧
    (∀ a b : Signature, a.WellFormed → b.WellFormed → a.encode = b.encode → a = b) ∧
    ((∀ signature : Signature, signature.WellFormed → text.toList ≠ signature.encode) →
      parse text = .error (.invalidDescriptor text)) := by
  have hparse : ∀ signature, parse text = .ok signature ↔
      signature.WellFormed ∧ text.toList = signature.encode := by
    intro signature
    rw [parse_eq_ok_iff_read?]
    exact ⟨eq_of_read?, fun ⟨hformed, htext⟩ => htext ▸ read?_encode hformed⟩
  refine ⟨hparse, fun a b ha hb heq => ?_, fun hnone => ?_⟩
  · have hread := read?_encode ha
    rw [heq, read?_encode hb] at hread
    exact (Option.some.inj hread).symm
  · cases hresult : parse text with
    | ok signature =>
      obtain ⟨hformed, htext⟩ := (hparse signature).mp hresult
      exact absurd htext (hnone signature hformed)
    | error fault => rw [eq_of_parse_error hresult]

/-- The name of a class that holds parentheses and a bracket. -/
theorem parse_eq_ok_iff_encode_brackets :
    parse "(L)([;[J)V" = .ok ⟨[⟨0, .object ")(["⟩, ⟨1, .primitive .long⟩], ⟨0, .void⟩⟩ :=
  ((parse_eq_ok_iff_encode "(L)([;[J)V").1 _).mpr ⟨by decide, by decide⟩

end Signature

end ClassFormat
