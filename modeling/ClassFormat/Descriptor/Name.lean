/-!
# Internal names

Inside a class file a class is named by its package and its simple name with slashes between them,
as in `java/util/List`.

## Main definitions

* `ClassFormat.InternalName.simpleName`, `ClassFormat.InternalName.package?` — the part behind the
  last slash, and the part before it.
* `ClassFormat.InternalName.importPath?` — what source code has to import in order to use the simple
  name.
-/

namespace ClassFormat.InternalName

/-- The part of a name behind its last slash. -/
def simpleName (name : String) : String :=
  String.ofList (name.toList.reverse.takeWhile (· ≠ '/')).reverse

/-- The part of a name before its last slash, if it has one. -/
def package? (name : String) : Option String :=
  if name.toList.contains '/' then
    some (String.ofList ((name.toList.reverse.dropWhile (· ≠ '/')).drop 1).reverse)
  else
    none

/-- Whether a name lies directly in the package `java.lang`, all of whose classes are imported
already. -/
def isImplicit (name : String) : Bool :=
  "java/lang/".toList.isPrefixOf name.toList && name.toList.count '/' == 2

/-- A name with dots for slashes. -/
def dotted (name : String) : String :=
  name.map fun c => if c = '/' then '.' else c

/-- What source code has to import in order to use the simple name: nothing for classes without a
package and for those of `java.lang`. -/
def importPath? (name : String) : Option String :=
  if isImplicit name || !name.toList.contains '/' then none else some (dotted name)

end ClassFormat.InternalName
