import ClassFormat.ClassFile.Reader
import ClassFormat.Proofs.Descriptor.Grammar

/-!
# Packages and simple names

A name is cut at its last slash. Every name is put together from a package, if it has one, and a
simple name without a slash, and in one way only, also where slashes stand at its ends or next to
each other. What source code has to import is settled without looking for the last slash, by how the
name begins and by how many slashes it holds; both ways of looking at the name come to the same
package.

## Main definitions

* `ClassFormat.InternalName.ofParts` — the name with a given package and simple name.
* `ClassFormat.ClassFile.doubledSlash` — a small class file whose package is not quite `java/lang`.

## Main results

* `ClassFormat.InternalName.eq_parts_iff` — a name is cut exactly into the parts that it is put
  together from.
* `ClassFormat.InternalName.package?_eq_some_iff` — the package of a name by how the name begins and
  by its slashes.
* `ClassFormat.ClassFile.names_agree` — a class and the type that its name spells are named alike.
-/

namespace ClassFormat

namespace InternalName

/-- The name of a class with a given package, or without one, and a given simple name. -/
def ofParts : Option String → String → String
  | none, simple => simple
  | some package, simple => package ++ "/" ++ simple

/-- A name with a package, character by character. -/
lemma toList_ofParts_some (package simple : String) :
    (ofParts (some package) simple).toList = package.toList ++ '/' :: simple.toList := by
  simp [ofParts]

/-- Read backwards, a name begins with its simple name. -/
lemma reverse_toList_ofParts_some (package simple : String) :
    (ofParts (some package) simple).toList.reverse =
      simple.toList.reverse ++ '/' :: package.toList.reverse := by
  simp [toList_ofParts_some]

/-! ## Cutting a name at its last slash -/

/-- Read backwards, a simple name is passed over as a whole. -/
lemma forall_mem_reverse_ne {simple : String} (h : '/' ∉ simple.toList) :
    ∀ c ∈ simple.toList.reverse, decide (c ≠ '/') = true := by
  intro c hc
  exact decide_eq_true fun heq => h (heq ▸ List.mem_reverse.mp hc)

/-- The simple name that a name is put together from is found again. -/
lemma simpleName_ofParts (package : Option String) {simple : String} (h : '/' ∉ simple.toList) :
    simpleName (ofParts package simple) = simple := by
  have hall := forall_mem_reverse_ne h
  cases package with
  | none =>
    rw [ofParts, simpleName, List.takeWhile_eq_self_iff.mpr hall, List.reverse_reverse,
      String.ofList_toList]
  | some package =>
    rw [simpleName, reverse_toList_ofParts_some, List.takeWhile_append_of_pos hall,
      List.takeWhile_cons_of_neg (by simp), List.append_nil, List.reverse_reverse,
      String.ofList_toList]

/-- The package that a name is put together from is found again. -/
lemma package?_ofParts (package : Option String) {simple : String} (h : '/' ∉ simple.toList) :
    package? (ofParts package simple) = package := by
  have hall := forall_mem_reverse_ne h
  cases package with
  | none => rw [ofParts, package?, if_neg (by simpa using h)]
  | some package =>
    rw [package?, if_pos (by simp [toList_ofParts_some]), reverse_toList_ofParts_some,
      List.dropWhile_append_of_pos hall, List.dropWhile_cons_of_neg (by simp), List.drop_one,
      List.tail_cons, List.reverse_reverse, String.ofList_toList]

/-- Every name has parts.

**Proof sketch.** The last slash of a name is the first one of the name read backwards. -/
lemma exists_eq_ofParts (name : String) :
    ∃ package simple, name = ofParts package simple ∧ '/' ∉ simple.toList := by
  by_cases hslash : '/' ∈ name.toList
  · obtain ⟨behind, before, hreverse, hbehind⟩ :=
      List.eq_append_cons_of_mem (List.mem_reverse.mpr hslash)
    refine ⟨some (String.ofList before.reverse), String.ofList behind.reverse,
      ?_, by simpa using hbehind⟩
    rw [← String.toList_inj, toList_ofParts_some, ← List.reverse_reverse name.toList, hreverse]
    simp
  · exact ⟨none, name, rfl, hslash⟩

/-- **The parts of a name.** A name is cut into a package and a simple name exactly if it is put
together from them and the simple name holds no slash. -/
theorem eq_parts_iff {name simple : String} {package : Option String} :
    package? name = package ∧ simpleName name = simple ↔
    name = ofParts package simple ∧ '/' ∉ simple.toList := by
  constructor
  · rintro ⟨rfl, rfl⟩
    obtain ⟨package, simple, rfl, hsimple⟩ := exists_eq_ofParts name
    rw [package?_ofParts package hsimple, simpleName_ofParts package hsimple]
    exact ⟨rfl, hsimple⟩
  · rintro ⟨rfl, hsimple⟩
    exact ⟨package?_ofParts package hsimple, simpleName_ofParts package hsimple⟩

/-- Every name is put together from the parts into which it is cut. -/
lemma eq_ofParts (name : String) : name = ofParts (package? name) (simpleName name) :=
  (eq_parts_iff.mp ⟨rfl, rfl⟩).1

/-- A simple name holds no slash. -/
lemma slash_not_mem_simpleName (name : String) : '/' ∉ (simpleName name).toList :=
  (eq_parts_iff.mp ⟨rfl, rfl⟩).2

/-- A name with a package is the package, a slash and the simple name. -/
lemma toList_of_package? {name package : String} (h : package? name = some package) :
    name.toList = package.toList ++ '/' :: (simpleName name).toList := by
  rw [← toList_ofParts_some, ← h, ← eq_ofParts]

/-- The characters of a package are characters of the name. -/
lemma package_subset {name package : String} (h : package? name = some package) :
    package.toList ⊆ name.toList := by
  rw [toList_of_package? h]
  exact List.subset_append_left _ _

/-- The characters of a simple name are characters of the name. -/
lemma simpleName_subset (name : String) : (simpleName name).toList ⊆ name.toList := by
  cases hpackage : package? name with
  | none =>
    have hname := eq_ofParts name
    rw [hpackage, ofParts] at hname
    rw [← hname]
    exact List.Subset.refl _
  | some package =>
    intro c hc
    rw [toList_of_package? hpackage]
    exact List.mem_append_right _ (List.mem_cons_of_mem _ hc)

/-! ## Imports -/

/-- A name has a package exactly if it holds a slash. -/
lemma contains_slash_eq_isSome (name : String) :
    name.toList.contains '/' = (package? name).isSome := by
  unfold package?
  split <;> simp_all

/-- The package of a name begins it, with a slash behind, and the name has no further slash.

**Proof sketch.** If the slashes are used up by the beginning, what stands behind it has none, so it
is the simple name. -/
theorem package?_eq_some_iff {name package : String} :
    package? name = some package ↔
      package.toList ++ ['/'] <+: name.toList ∧
      name.toList.count '/' = package.toList.count '/' + 1 := by
  constructor
  · intro hpackage
    have hname := toList_of_package? hpackage
    have hnone : (simpleName name).toList.count '/' = 0 :=
      List.count_eq_zero.mpr (slash_not_mem_simpleName name)
    refine ⟨⟨(simpleName name).toList, by simp [hname]⟩, ?_⟩
    rw [hname, List.count_append, List.count_cons_self, hnone]
  · rintro ⟨⟨rest, hrest⟩, hcount⟩
    have hnone : '/' ∉ rest := by
      rw [← hrest, List.count_append, List.count_append, List.count_singleton_self] at hcount
      exact List.count_eq_zero.mp (by omega)
    have hname : name = ofParts (some package) (String.ofList rest) := by
      rw [← String.toList_inj, toList_ofParts_some, ← hrest]
      simp
    rw [hname]
    exact package?_ofParts _ (by simpa using hnone)

/-- The names that are imported already are those whose package is `java.lang`. -/
lemma isImplicit_iff {name : String} :
    isImplicit name = true ↔ package? name = some "java/lang" := by
  have hbegin : "java/lang/".toList = "java/lang".toList ++ ['/'] := by decide
  have hslashes : "java/lang".toList.count '/' = 1 := by decide
  rw [isImplicit, Bool.and_eq_true, List.isPrefixOf_iff_prefix, beq_iff_eq, hbegin,
    package?_eq_some_iff, hslashes]

/-- Nothing has to be imported for names without a package and for those of `java.lang`. -/
lemma importPath?_eq_none_iff {name : String} :
    importPath? name = none ↔ package? name = none ∨ package? name = some "java/lang" := by
  unfold importPath?
  rw [contains_slash_eq_isSome, ite_eq_left_iff, ← isImplicit_iff]
  cases package? name <;> simp

/-- With dots for slashes, a simple name is what it was. -/
lemma dotted_eq_self {simple : String} (h : '/' ∉ simple.toList) : dotted simple = simple := by
  have hkept : ∀ c ∈ simple.toList, (if c = '/' then '.' else c) = c := by
    intro c hc
    exact if_neg fun heq : c = '/' => h (heq ▸ hc)
  rw [← String.toList_inj, dotted, String.toList_map, List.map_congr_left hkept, List.map_id']

/-- Dots take the place of the slashes in the package and of the one behind it. -/
lemma dotted_ofParts_some (package : String) {simple : String} (h : '/' ∉ simple.toList) :
    dotted (ofParts (some package) simple) = dotted package ++ "." ++ simple := by
  calc dotted (ofParts (some package) simple) = dotted package ++ "." ++ dotted simple := by
        simp [← String.toList_inj, dotted, ofParts]
    _ = dotted package ++ "." ++ simple := by rw [dotted_eq_self h]

/-- Behind any package but `java.lang`, the whole name has to be imported. -/
lemma importPath?_of_package? {name package : String} (hpackage : package? name = some package)
    (hlang : package ≠ "java/lang") :
    importPath? name = some (dotted package ++ "." ++ simpleName name) := by
  have hdotted : dotted name = dotted package ++ "." ++ simpleName name := by
    rw [← dotted_ofParts_some package (slash_not_mem_simpleName name), ← hpackage, ← eq_ofParts]
  have himplicit : isImplicit name = false := by
    rw [← Bool.not_eq_true, isImplicit_iff, hpackage]
    exact fun heq => hlang (Option.some.inj heq)
  rw [importPath?, himplicit, contains_slash_eq_isSome, hpackage, hdotted]
  rfl

end InternalName

namespace ClassFile

open InternalName

/-- **Names are cut alike.** The name of a class is its simple name, or its package, a slash and its
simple name, and the simple name holds no slash. If the name can stand in a descriptor, the type
that it spells there is called by the same simple name. The type needs no import exactly if the
class has no package or lies in `java.lang`, and otherwise it is imported by the package, with dots
for slashes, and the simple name behind a dot.

**Proof sketch.** The descriptor is read back as the name itself, so everything is about the parts
of one name. -/
theorem names_agree (file : ClassFile) (hname : file.name ≠ "")
    (hsemicolon : ';' ∉ file.name.toList) :
    (file.package? = none → file.name = file.simpleName) ∧
    (∀ package, file.package? = some package → file.name = package ++ "/" ++ file.simpleName) ∧
    '/' ∉ file.simpleName.toList ∧
    ∃ type, TypeDescriptor.parse ("L" ++ file.name ++ ";") = .ok type ∧
      type.baseName = file.simpleName ∧
      (type.importPath? = none ↔ file.package? = none ∨ file.package? = some "java/lang") ∧
      ∀ package, file.package? = some package → package ≠ "java/lang" →
        type.importPath? =
          some (package.map (fun c => if c = '/' then '.' else c) ++ "." ++ file.simpleName) := by
  have hparts : file.name = ofParts file.package? file.simpleName := eq_ofParts file.name
  have hformed : TypeDescriptor.WellFormed ⟨0, .object file.name⟩ := ⟨hname, hsemicolon⟩
  have hparse : TypeDescriptor.parse ("L" ++ file.name ++ ";") = .ok ⟨0, .object file.name⟩ :=
    TypeDescriptor.parse_of_toList_eq hformed
      (by simp [TypeDescriptor.encode, TypeDescriptor.encodeBase])
  refine ⟨fun hnone => ?_, fun package hpackage => ?_,
    slash_not_mem_simpleName file.name, _, hparse, rfl,
    importPath?_eq_none_iff, fun package hpackage hlang => importPath?_of_package? hpackage hlang⟩
  · rw [hnone] at hparts
    exact hparts
  · rw [hpackage] at hparts
    exact hparts

/-- A class file with nothing but a name, in which a slash follows `java/lang/`. -/
def doubledSlash : Bytes :=
  [0xCA, 0xFE, 0xBA, 0xBE, 0, 0, 0, 52] ++
    -- the pool: `java/lang//é` and the class of that name
    [0, 3, 1, 0, 13, 106, 97, 118, 97, 47, 108, 97, 110, 103, 47, 47, 0xC3, 0xA9, 7, 0, 1] ++
    [0, 0x21, 0, 2, 0, 0, 0, 0, 0, 0, 0, 0, 0, 0]

/-- The package is `java/lang/` and not `java/lang`, so the class has to be imported. -/
theorem names_agree_doubledSlash :
    ∃ file type, decode doubledSlash {} = .ok file ∧ file.name = "java/lang/" ++ "/" ++ "é" ∧
      file.package? = some "java/lang/" ∧ file.simpleName = "é" ∧
      TypeDescriptor.parse "Ljava/lang//é;" = .ok type ∧ type.baseName = "é" ∧
      type.importPath? = some "java.lang..é" := by
  have hdecode : (decode doubledSlash {}).toOption.map ClassFile.name = some "java/lang//é" := by
    decide +kernel
  cases hfile : decode doubledSlash {} with
  | error fault =>
    rw [hfile] at hdecode
    cases hdecode
  | ok file =>
    rw [hfile] at hdecode
    have hname : file.name = "java/lang//é" := Option.some.inj hdecode
    have hpackage : file.package? = some "java/lang/" := by
      rw [package?, hname]
      decide
    have hsimple : file.simpleName = "é" := by
      rw [simpleName, hname]
      decide
    obtain ⟨-, hparts, -, type, hparse, hbase, -, himport⟩ :=
      names_agree file (by rw [hname]; decide) (by rw [hname]; decide)
    rw [hsimple] at hparts hbase himport
    rw [hname] at hparse
    refine ⟨file, type, rfl, hparts _ hpackage, hpackage, hsimple, hparse, hbase, ?_⟩
    rw [himport _ hpackage (by decide), Option.some_inj, ← String.toList_inj]
    simp

end ClassFile

end ClassFormat
