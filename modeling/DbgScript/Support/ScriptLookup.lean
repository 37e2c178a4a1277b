import DbgScript.Host.Context
import DbgScript.Support.Queries
import DbgScript.Support.TargetMemory

/-!
# Looking up a script

`UtilFindScriptFile` (src/support/util.cpp:919-966) writes one candidate after the other
to the array of its caller, and looks at last whether what is left there is a file. A
candidate that does not fit is cut, and the cut text is tried like any other.

* `findsFirst_iff`: a success gives the script that the documentation promises iff no
  cut text is taken for it.
* `not_misled_of_fits`: as long as the candidates fit, that does not happen.
-/

namespace DbgScript

/-- Strings are the lists of their characters. `getFileAttributes` is that of Windows, and
    `widen` the conversion that `%hs` makes. -/
structure FileEnv where
  getFileAttributes : List WCHAR → BitVec 32
  widen : List CHAR → List WCHAR

variable (e : FileEnv)

def INVALID_FILE_ATTRIBUTES : BitVec 32 := 0xffffffff#32
def FILE_ATTRIBUTE_DIRECTORY : BitVec 32 := 0x10#32

/-- `UtilFileExists(wszPath)` (src/support/util.cpp:443-451). -/
def utilFileExists (wszPath : List WCHAR) : Bool :=
  let dwAttrib := e.getFileAttributes wszPath
  dwAttrib ≠ INVALID_FILE_ATTRIBUTES && dwAttrib &&& FILE_ATTRIBUTE_DIRECTORY = 0

/-- The file `scriptName` in the directory `path`. -/
def FileEnv.candidate (scriptName : List WCHAR) (path : List CHAR) : List WCHAR :=
  e.widen path ++ 92 :: scriptName

/-! ## Specification -/

section Specification

variable (cch : CInt) (scriptName : List WCHAR)

/-- There is room for the string and its NUL in an array of `cch` characters. -/
def Fits (cch : CInt) (s : List WCHAR) : Prop := (s.length : ℤ) < cch.toInt

instance (cch : CInt) (s : List WCHAR) : Decidable (Fits cch s) :=
  inferInstanceAs (Decidable (_ < _))

/-- What is left of a string in an array of `cch` characters. -/
def cut (cch : CInt) (s : List WCHAR) : List WCHAR := s.take (cch.toNat - 1)

/-- The first of the search paths that has the script, as a path that fits. -/
def FileEnv.firstMatch (paths : List (List CHAR)) : Option (List WCHAR) :=
  (paths.map (e.candidate scriptName)).find? fun p => Fits cch p ∧ utilFileExists e p

/-- The script itself if there is such a file, and the first match otherwise. -/
def FileEnv.lookup (paths : List (List CHAR)) : Option (List WCHAR) :=
  if utilFileExists e scriptName then some scriptName else e.firstMatch cch scriptName paths

/-- A success is the script that is to be found, and without such a script there is none. -/
structure FindsFirst (paths : List (List CHAR)) (out : HRESULT × List WCHAR) : Prop where
  found : FAILED out.1 = false → e.lookup cch scriptName paths = some out.2
  notFound : e.lookup cch scriptName paths = none → FAILED out.1 = true

/-- A path that is too long for the script comes first, cut to the name of a file; and
    this file is not what the paths after it lead to. -/
def Misled (paths : List (List CHAR)) : Prop :=
  Fits cch scriptName ∧ utilFileExists e scriptName = false ∧ ∃ before path after,
    paths = before ++ path :: after ∧
      (∀ p ∈ before, utilFileExists e (cut cch (e.candidate scriptName p)) = false) ∧
      ¬ Fits cch (e.candidate scriptName path) ∧
      utilFileExists e (cut cch (e.candidate scriptName path)) = true ∧
      e.firstMatch cch scriptName after ≠ some (cut cch (e.candidate scriptName path))

end Specification

/-! ## Model -/

def STRSAFE_E_INVALID_PARAMETER : HRESULT := 0x80070057#32

/-- `StringCchCopy` and `StringCchPrintf` into an array of `cch` characters that holds
    `dest`. A negative size is a `size_t` above `STRSAFE_MAX_CCH`. -/
def stringCchWrite (cch : CInt) (dest text : List WCHAR) : HRESULT × List WCHAR :=
  if cch.toInt ≤ 0 then (STRSAFE_E_INVALID_PARAMETER, dest)
  else if (text.length : ℤ) < cch.toInt then (S_OK, text)
  else (STRSAFE_E_INSUFFICIENT_BUFFER, text.take (cch.toNat - 1))

/-- The loop over the search paths (src/support/util.cpp:942-952). The code of
    `StringCchPrintf` is not looked at. -/
def searchPaths (cch : CInt) (scriptName : List WCHAR) :
    List (List CHAR) → List WCHAR → List WCHAR
  | [], fullPath => fullPath
  | path :: elems, fullPath =>
    let fullPath := (stringCchWrite cch fullPath (e.candidate scriptName path)).2
    if utilFileExists e fullPath then fullPath else searchPaths cch scriptName elems fullPath

/-- `UtilFindScriptFile(hostCtxt, scriptName, fullPath, cchFullPath)`
    (src/support/util.cpp:919-966). -/
def utilFindScriptFile (scriptName fullPath : List WCHAR) (cchFullPath : CInt) (h : Host) :
    Host × HRESULT × List WCHAR :=
  let (hr, fullPath) := stringCchWrite cchFullPath fullPath scriptName
  if FAILED hr then (h, hr, fullPath)
  else
    let fullPath :=
      if !utilFileExists e fullPath then
        searchPaths e cchFullPath scriptName h.ctx.scriptPath fullPath
      else fullPath
    if !utilFileExists e fullPath then
      (h.output DEBUG_OUTPUT_ERROR "Error: Script file not found in any of the search paths.\n" [],
        hresultFromWin32 2#32, fullPath)
    else (h, hr, fullPath)

/-! ## Candidates -/

variable {e} {cch : CInt} {scriptName : List WCHAR}

theorem Fits.pos {s : List WCHAR} (h : Fits cch s) : 0 < cch.toInt :=
  lt_of_le_of_lt (Int.natCast_nonneg _) h

theorem cut_of_fits {s : List WCHAR} (h : Fits cch s) : cut cch s = s := by
  have hle : cch.toInt ≤ cch.toNat := by
    rw [BitVec.toInt_eq_toNat_cond]
    split_ifs <;> omega
  apply List.take_of_length_le
  unfold Fits at h
  omega

/-- What is written is cut to what fits. -/
theorem stringCchWrite_of_pos (hpos : 0 < cch.toInt) (dest text : List WCHAR) :
    stringCchWrite cch dest text =
      (if Fits cch text then S_OK else STRSAFE_E_INSUFFICIENT_BUFFER, cut cch text) := by
  rw [stringCchWrite, if_neg (by omega)]
  by_cases h : Fits cch text
  · exact (if_pos h).trans (by rw [if_pos h, cut_of_fits h])
  · exact (if_neg h).trans (by rw [if_neg h, cut])

theorem failed_stringCchWrite (dest : List WCHAR) (h : ¬ Fits cch scriptName) :
    FAILED (stringCchWrite cch dest scriptName).1 = true := by
  unfold stringCchWrite
  split_ifs
  · exact failed_E_INVALIDARG
  · contradiction
  · exact failed_STRSAFE_E_INSUFFICIENT_BUFFER

/-- The loop stops at this path: the text that fits names a file. -/
def FileEnv.Stops (e : FileEnv) (cch : CInt) (scriptName : List WCHAR) (path : List CHAR) : Bool :=
  utilFileExists e (cut cch (e.candidate scriptName path))

theorem searchPaths_cons (hpos : 0 < cch.toInt) (path : List CHAR) (paths : List (List CHAR))
    (fullPath : List WCHAR) :
    searchPaths e cch scriptName (path :: paths) fullPath =
      if e.Stops cch scriptName path then cut cch (e.candidate scriptName path)
      else searchPaths e cch scriptName paths (cut cch (e.candidate scriptName path)) := by
  simp only [searchPaths, stringCchWrite_of_pos hpos]
  rfl

theorem searchPaths_of_find (hpos : 0 < cch.toInt) {paths : List (List CHAR)} {path : List CHAR}
    (h : paths.find? (e.Stops cch scriptName) = some path) (fullPath : List WCHAR) :
    searchPaths e cch scriptName paths fullPath = cut cch (e.candidate scriptName path) := by
  induction paths generalizing fullPath with
  | nil => simp at h
  | cons p paths ih =>
    rw [searchPaths_cons hpos]
    by_cases hp : e.Stops cch scriptName p
    · rw [List.find?_cons_of_pos hp] at h
      rw [if_pos hp, Option.some.inj h]
    · rw [List.find?_cons_of_neg hp] at h
      rw [if_neg hp]
      exact ih h _

theorem searchPaths_of_none (hpos : 0 < cch.toInt) {paths : List (List CHAR)}
    (h : paths.find? (e.Stops cch scriptName) = none) {fullPath : List WCHAR}
    (hfile : utilFileExists e fullPath = false) :
    utilFileExists e (searchPaths e cch scriptName paths fullPath) = false := by
  induction paths generalizing fullPath with
  | nil => exact hfile
  | cons p paths ih =>
    have hp : ¬ e.Stops cch scriptName p := by
      simpa using List.find?_eq_none.1 h p (List.mem_cons_self ..)
    rw [List.find?_cons_of_neg hp] at h
    rw [searchPaths_cons hpos, if_neg hp]
    exact ih h (Bool.eq_false_iff.2 hp)

/-! ## The function -/

section Function

variable (fullPath : List WCHAR) (h : Host)

theorem stringCchWrite_of_fits (hfits : Fits cch scriptName) :
    stringCchWrite cch fullPath scriptName = (S_OK, scriptName) := by
  rw [stringCchWrite_of_pos hfits.pos, if_pos hfits, cut_of_fits hfits]

/-- A name that does not fit is rejected. -/
theorem utilFindScriptFile_of_not_fits (hlong : ¬ Fits cch scriptName) :
    FAILED (utilFindScriptFile e scriptName fullPath cch h).2.1 = true := by
  have hfailed := failed_stringCchWrite fullPath hlong
  simp [utilFindScriptFile, hfailed]

theorem utilFindScriptFile_of_file (hfits : Fits cch scriptName)
    (hfile : utilFileExists e scriptName = true) :
    (utilFindScriptFile e scriptName fullPath cch h).2 = (S_OK, scriptName) := by
  simp [utilFindScriptFile, stringCchWrite_of_fits fullPath hfits, hfile]

/-- The text at which the loop stops is returned. -/
theorem utilFindScriptFile_of_find (hfits : Fits cch scriptName)
    (hfile : utilFileExists e scriptName = false) {path : List CHAR}
    (hfind : h.ctx.scriptPath.find? (e.Stops cch scriptName) = some path) :
    (utilFindScriptFile e scriptName fullPath cch h).2 =
      (S_OK, cut cch (e.candidate scriptName path)) := by
  have hstop : e.Stops cch scriptName path = true := List.find?_some hfind
  rw [FileEnv.Stops] at hstop
  simp [utilFindScriptFile, stringCchWrite_of_fits fullPath hfits, hfile,
    searchPaths_of_find hfits.pos hfind, hstop]

theorem utilFindScriptFile_of_none (hfits : Fits cch scriptName)
    (hfile : utilFileExists e scriptName = false)
    (hfind : h.ctx.scriptPath.find? (e.Stops cch scriptName) = none) :
    FAILED (utilFindScriptFile e scriptName fullPath cch h).2.1 = true := by
  have hnotFound : FAILED (hresultFromWin32 2#32) = true := by decide
  simp [utilFindScriptFile, stringCchWrite_of_fits fullPath hfits, hfile,
    searchPaths_of_none hfits.pos hfind hfile, hnotFound]

end Function

/-! ## The first match -/

/-- A path at which the loop does not stop has no script that fits. -/
theorem firstMatch_of_skipped {before : List (List CHAR)} (after : List (List CHAR))
    (hskip : ∀ p ∈ before, e.Stops cch scriptName p = false) :
    e.firstMatch cch scriptName (before ++ after) = e.firstMatch cch scriptName after := by
  rw [FileEnv.firstMatch, List.map_append, List.find?_append, FileEnv.firstMatch,
    List.find?_eq_none.2, Option.none_or]
  intro text htext
  obtain ⟨p, hp, rfl⟩ := List.mem_map.1 htext
  have hstop := hskip p hp
  rw [FileEnv.Stops] at hstop
  by_cases hfits : Fits cch (e.candidate scriptName p)
  · simpa [cut_of_fits hfits, hfits] using hstop
  · simp [hfits]

/-- A path that is short enough gives the first match if the loop stops at it. -/
theorem firstMatch_cons_of_fits {path : List CHAR} (after : List (List CHAR))
    (hfits : Fits cch (e.candidate scriptName path)) (hstop : e.Stops cch scriptName path = true) :
    e.firstMatch cch scriptName (path :: after) = some (cut cch (e.candidate scriptName path)) := by
  rw [FileEnv.Stops, cut_of_fits hfits] at hstop
  rw [FileEnv.firstMatch, List.map_cons, List.find?_cons_of_pos (by simp [hfits, hstop]),
    cut_of_fits hfits]

theorem firstMatch_cons_of_not_fits {path : List CHAR} (after : List (List CHAR))
    (hlong : ¬ Fits cch (e.candidate scriptName path)) :
    e.firstMatch cch scriptName (path :: after) = e.firstMatch cch scriptName after := by
  rw [FileEnv.firstMatch, List.map_cons, List.find?_cons_of_neg (by simp [hlong])]
  rfl

/-! ## Being misled -/

/-- What comes after the path at which the loop stops. -/
theorem dropWhile_skipped {before after : List (List CHAR)} {path : List CHAR}
    (hskip : ∀ p ∈ before, e.Stops cch scriptName p = false)
    (hstop : e.Stops cch scriptName path = true) :
    (before ++ path :: after).dropWhile (fun p => !e.Stops cch scriptName p) = path :: after := by
  rw [List.dropWhile_append_of_pos fun p hp => by simp [hskip p hp],
    List.dropWhile_cons_of_neg (by simp [hstop])]

/-- The path at which the loop stops decides. -/
theorem misled_iff {before after : List (List CHAR)} {path : List CHAR}
    (hfits : Fits cch scriptName) (hfile : utilFileExists e scriptName = false)
    (hskip : ∀ p ∈ before, e.Stops cch scriptName p = false)
    (hstop : e.Stops cch scriptName path = true) :
    Misled e cch scriptName (before ++ path :: after) ↔
      ¬ Fits cch (e.candidate scriptName path) ∧
        e.firstMatch cch scriptName after ≠ some (cut cch (e.candidate scriptName path)) := by
  constructor
  · rintro ⟨-, -, before', path', after', hpaths, hskip', hlong, hstop', hother⟩
    have hdrop := congrArg (List.dropWhile fun p => !e.Stops cch scriptName p) hpaths
    rw [dropWhile_skipped hskip hstop, dropWhile_skipped hskip' hstop'] at hdrop
    obtain ⟨rfl, rfl⟩ := List.cons.inj hdrop
    exact ⟨hlong, hother⟩
  · rintro ⟨hlong, hother⟩
    exact ⟨hfits, hfile, before, path, after, rfl, hskip, hlong, hstop, hother⟩

/-- The loop stops at some path if it is misled. -/
theorem find_ne_none_of_misled {paths : List (List CHAR)} (hm : Misled e cch scriptName paths) :
    paths.find? (e.Stops cch scriptName) ≠ none := by
  obtain ⟨-, -, before, path, after, rfl, -, -, hstop, -⟩ := hm
  intro hnone
  exact absurd hstop (List.find?_eq_none.1 hnone path (by simp))

theorem lookup_of_not_file (hfile : utilFileExists e scriptName = false)
    (paths : List (List CHAR)) :
    e.lookup cch scriptName paths = e.firstMatch cch scriptName paths :=
  if_neg (by simp [hfile])

theorem findsFirst_of_failed {paths : List (List CHAR)} {out : HRESULT × List WCHAR}
    (hfailed : FAILED out.1 = true) : FindsFirst e cch scriptName paths out :=
  ⟨fun hok => absurd hfailed (by simp [hok]), fun _ => hfailed⟩

/-- A success is right iff it is the documented one. -/
theorem findsFirst_of_ok {paths : List (List CHAR)} {found : List WCHAR} :
    FindsFirst e cch scriptName paths (S_OK, found) ↔
      e.lookup cch scriptName paths = some found := by
  constructor
  · intro hfinds
    exact hfinds.found failed_S_OK
  · intro hlookup
    exact ⟨fun _ => hlookup, fun hnone => by simp [hlookup] at hnone⟩

/-! ## The lookup -/

section Lookup

variable (fullPath : List WCHAR) (h : Host)

/-- The path at which the loop stops is right if it is short enough, or if the paths after
    it lead to the same file. -/
theorem findsFirst_iff_of_stop {before after : List (List CHAR)} {path : List CHAR}
    (hpaths : h.ctx.scriptPath = before ++ path :: after) (hfits : Fits cch scriptName)
    (hfile : utilFileExists e scriptName = false)
    (hskip : ∀ p ∈ before, e.Stops cch scriptName p = false)
    (hstop : e.Stops cch scriptName path = true) :
    FindsFirst e cch scriptName h.ctx.scriptPath
        (utilFindScriptFile e scriptName fullPath cch h).2 ↔
      Fits cch (e.candidate scriptName path) ∨
        e.firstMatch cch scriptName after = some (cut cch (e.candidate scriptName path)) := by
  have hfind : h.ctx.scriptPath.find? (e.Stops cch scriptName) = some path := by
    rw [hpaths]
    exact List.find?_eq_some_iff_append.2 ⟨hstop, before, after, rfl, by simpa using hskip⟩
  rw [utilFindScriptFile_of_find fullPath h hfits hfile hfind, findsFirst_of_ok,
    lookup_of_not_file hfile, hpaths, firstMatch_of_skipped _ hskip]
  by_cases hshort : Fits cch (e.candidate scriptName path)
  · simp [firstMatch_cons_of_fits after hshort hstop, hshort]
  · simp [firstMatch_cons_of_not_fits after hshort, hshort]

/-- A success gives the script itself, or the first of the search paths that has it, unless
    a path that is too long is cut to the name of another file. -/
theorem findsFirst_iff (e : FileEnv) (cch : CInt) (scriptName fullPath : List WCHAR) (h : Host) :
    FindsFirst e cch scriptName h.ctx.scriptPath
        (utilFindScriptFile e scriptName fullPath cch h).2 ↔
      ¬ Misled e cch scriptName h.ctx.scriptPath := by
  by_cases hfits : Fits cch scriptName
  · cases hfile : utilFileExists e scriptName with
    | true =>
      have hlookup : e.lookup cch scriptName h.ctx.scriptPath = some scriptName := if_pos hfile
      rw [utilFindScriptFile_of_file fullPath h hfits hfile, findsFirst_of_ok]
      exact iff_of_true hlookup fun hm => by simp [hm.2.1] at hfile
    | false =>
      cases hfind : h.ctx.scriptPath.find? (e.Stops cch scriptName) with
      | some path =>
        obtain ⟨hstop, before, after, hpaths, hskip⟩ := List.find?_eq_some_iff_append.1 hfind
        have hskip : ∀ p ∈ before, e.Stops cch scriptName p = false := by simpa using hskip
        rw [findsFirst_iff_of_stop fullPath h hpaths hfits hfile hskip hstop, hpaths,
          misled_iff hfits hfile hskip hstop, not_and_or, not_not, not_not]
      | none =>
        have hfailed := utilFindScriptFile_of_none fullPath h hfits hfile hfind
        exact iff_of_true (findsFirst_of_failed hfailed) fun hm =>
          find_ne_none_of_misled hm hfind
  · have hfailed := utilFindScriptFile_of_not_fits (e := e) fullPath h hfits
    exact iff_of_true (findsFirst_of_failed hfailed) fun hm => hfits hm.1

/-- With room for every candidate no path is cut. -/
theorem not_misled_of_fits {paths : List (List CHAR)}
    (hfits : ∀ path ∈ paths, Fits cch (e.candidate scriptName path)) :
    ¬ Misled e cch scriptName paths := by
  rintro ⟨-, -, before, path, after, rfl, -, hlong, -, -⟩
  exact hlong (hfits path (by simp))

end Lookup

/-- `C:\ddd…d`, of 240 characters. -/
def longDirectory : List CHAR := [67, 58, 92] ++ List.replicate 237 100

/-- `aaaaaaaaaaaaaaaa.py`. -/
def longScriptName : List WCHAR := List.replicate 16 97 ++ [46, 112, 121]

/-- The only file is `aaaaaaaaaaaaaaaa.p` in the long directory. -/
def oneFile : FileEnv :=
  let widen (s : List CHAR) : List WCHAR := s.map fun c => c.toNat.toUInt16
  { getFileAttributes := fun p =>
      if p = widen longDirectory ++ 92 :: List.replicate 16 97 ++ [46, 112] then 0x20#32
      else INVALID_FILE_ATTRIBUTES
    widen := widen }

/-- The host after `!scriptpath` with the long directory. -/
def hostWithLongDirectory : Host :=
  let h := Host.fresh fun _ => none
  { h with ctx := { h.ctx with scriptPath := [longDirectory] } }

/-- The path of the script has 260 characters, and `MAX_PATH` leaves room for 259. -/
theorem findsFirst_of_long_path_fails :
    let h := hostWithLongDirectory
    let cch : CInt := BitVec.ofNat 32 MAX_PATH
    ¬ FindsFirst oneFile cch longScriptName h.ctx.scriptPath
      (utilFindScriptFile oneFile longScriptName [] cch h).2 := by
  intro h cch
  have hpaths : h.ctx.scriptPath = [] ++ longDirectory :: [] := rfl
  have hstop : oneFile.Stops cch longScriptName longDirectory = true := by decide +kernel
  rw [findsFirst_iff_of_stop [] h hpaths (by decide) (by decide +kernel) (by simp) hstop]
  decide +kernel

end DbgScript
