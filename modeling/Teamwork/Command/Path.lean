/-!
# Names of files

A name of a file is a list of parts with slashes between them. Nothing here looks at files; that a
name leads anywhere is not known.

A name is read in two ways. Whoever follows it goes through folders: all parts but the last, and the
last one too if that is a dot or two dots. Whoever changes it leaves out what carries no meaning
for that: repeated slashes, slashes at the end and parts that are a single dot, except for a dot at
the very start. So the name `new/.` leads through the folder `new`, but its last part is `new`.

## Main definitions

* `Path.way`, `Path.target?` — the folders that a name leads through, and what it leads to there.
* `Path.fileName?`, `Path.folder?` — the last part, and the name without it.
* `Path.lineage` — a name, the name of its folder, of the folder of that, and so on.
* `Path.hasExtension`, `Path.addExtension` — the ending of the last part.
* `Path.beside` — a file in the same folder.

## Main results

* `Path.length_folder?_lt` — the name of a folder is shorter than that of what is in it.
-/

namespace Teamwork.Path

/-! ### Following a name -/

/-- The parts between slashes. -/
def splitSlash : List Char → List (List Char)
  | [] => [[]]
  | c :: cs =>
    if c = '/' then [] :: splitSlash cs
    else
      match splitSlash cs with
      | [] => [[c]]
      | part :: others => (c :: part) :: others

/-- The parts, a slash between any two. -/
def parts (path : String) : List String :=
  ((splitSlash path.toList).filter (· ≠ [])).map String.ofList

/-- What the name leads to in the folder at the end of the way: the last part, unless that is a dot
or two, which lead to a folder by themselves. -/
def target? (path : String) : Option String :=
  (parts path).getLast?.filter fun part => part ≠ "." ∧ part ≠ ".."

/-- The folders that the name leads through. -/
def way (path : String) : List String :=
  (if (target? path).isSome then (parts path).dropLast else parts path).filter (· ≠ ".")

/-- Whether the name starts at the root of all files. -/
def isAbsolute (path : String) : Bool :=
  path.toList.head? = some '/'

/-- Whether there is a slash at the end, so that the name can only be that of a folder. -/
def endsInSlash (path : String) : Bool :=
  ['/'] <:+ path.toList

/-! ### Changing a name -/

/-- A reversed name without the slashes and dots at its end that carry no meaning. -/
def trimReversed : List Char → List Char
  | '/' :: c :: cs => trimReversed (c :: cs)
  | '.' :: '/' :: cs => trimReversed ('/' :: cs)
  | cs => cs

/-- The name without the slashes and dots at its end that carry no meaning, reversed. -/
def reversed (path : String) : List Char :=
  trimReversed path.toList.reverse

/-- The last part, unless that is a dot or two or the root. -/
def fileName? (path : String) : Option String :=
  let name := ((reversed path).takeWhile (· ≠ '/')).reverse
  if name = [] ∨ name = ['.'] ∨ name = ['.', '.'] then none else some (String.ofList name)

/-- The name of the folder that the name is in. Neither the empty name nor the root is in one. -/
def folder? (path : String) : Option String :=
  let cs := reversed path
  if cs = [] ∨ cs = ['/'] then none
  else some (String.ofList (trimReversed (cs.dropWhile (· ≠ '/'))).reverse)

theorem length_trimReversed_le (cs : List Char) : (trimReversed cs).length ≤ cs.length := by
  fun_induction trimReversed cs with
  | case1 c cs ih => exact Nat.le_succ_of_le ih
  | case2 cs ih => exact Nat.le_succ_of_le ih
  | case3 => exact Nat.le_refl _

theorem trimReversed_ne_slash_cons (cs : List Char) (c : Char) (rest : List Char) :
    trimReversed cs ≠ '/' :: c :: rest := by
  fun_induction trimReversed cs with
  | case1 _ _ ih => exact ih
  | case2 _ ih => exact ih
  | case3 cs h => exact fun hcs => h c rest hcs

theorem length_folder?_lt {path folder : String} (h : folder? path = some folder) :
    folder.length < path.length := by
  have hle : (reversed path).length ≤ path.length := by
    have := length_trimReversed_le path.toList.reverse
    rwa [List.length_reverse, String.length_toList] at this
  cases hr : reversed path with
  | nil => simp [folder?, hr] at h
  | cons c cs =>
    have hc : c ≠ '/' := by
      rintro rfl
      cases cs with
      | nil => simp [folder?, hr] at h
      | cons d cs => exact trimReversed_ne_slash_cons _ _ _ hr
    have hdrop : ((c :: cs).dropWhile (· ≠ '/')).length ≤ cs.length := by
      rw [List.dropWhile_cons_of_pos (by simpa using hc)]
      exact (List.dropWhile_suffix _).length_le
    have htrim := length_trimReversed_le ((c :: cs).dropWhile (· ≠ '/'))
    rw [hr, List.length_cons] at hle
    simp only [folder?, hr] at h
    split at h
    · cases h
    · rw [← Option.some.inj h, String.length_ofList, List.length_reverse]
      omega

/-- The name, the name of the folder it is in, of the folder that one is in, and so on, as long as
there is one. -/
def lineage (path : String) : List String :=
  match h : folder? path with
  | none => []
  | some folder =>
    have := length_folder?_lt h
    path :: lineage folder
termination_by path.length

/-- Whether the last part has an ending: a point somewhere after its first character. -/
def hasExtension (path : String) : Bool :=
  (fileName? path).any fun name => name.toList.tail.contains '.'

/-- The name with an ending added to its last part, if that is the name of a file. -/
def addExtension (path ending : String) : String :=
  if (fileName? path).isSome then String.ofList (reversed path).reverse ++ "." ++ ending else path

/-- The name of a file in the same folder. -/
def beside (path name : String) : String :=
  match folder? path with
  | some folder =>
    if folder = "" then name
    else if ['/'] <:+ folder.toList then folder ++ name
    else folder ++ "/" ++ name
  | none => name

example : [way "a/./b", way "a/b/", way "a/b/.", way "a/..", way "./", way "/a"] =
    [["a"], ["a"], ["a", "b"], ["a", ".."], [], []] := by decide

example : [target? "a/./b", target? "a/b/", target? "a/b/.", target? "a/..", target? "",
    target? "/"] = [some "b", some "b", none, none, none, none] := by decide

example : [folder? "g", folder? "a/b", folder? "a//b/", folder? "./a", folder? "/a", folder? "/",
    folder? "a/./b", folder? ""] = [some "", some "a", some "a", some ".", some "/", none, some "a",
      none] := by decide

example : [hasExtension "g", hasExtension "g.", hasExtension ".g", hasExtension "d.x/g",
    hasExtension "g.tar.gz", hasExtension ".."] = [false, true, false, false, true, false] := by
  decide

example : [addExtension "sub/" "dot", addExtension ".." "dot", addExtension "a/./b" "dot"] =
    ["sub.dot", "..", "a/./b.dot"] := by decide

end Teamwork.Path
