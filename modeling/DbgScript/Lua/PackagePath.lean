import DbgScript.Lua.ScriptProvider

/-!
# The path on which `require` looks

`appendScriptPathToPackagePath` (src/luaprov/luascriptprovider.cpp:171-213) adds the
directory of the script to `package.path`. It asserts that the script's path contains a
backslash, and cuts the path there; the lookup of `Run` returns the name as it was typed if
there is such a file.

* `newPath_append`: the template for a path with a backslash.
* `addsDirectory_iff`: the assertion holds, and the directory of the script is added, iff
  the last separator of the path is a backslash and its directory is not too long.
-/

namespace DbgScript.Lua

open LuaApi (Interp State)

/-! ## Specification -/

/-- What separates the parts of a path. -/
def isSeparator (c : CHAR) : Bool := c = 92 || c = 47

/-- The directory of a path: what stands before its last separator. -/
def directory (path : List CHAR) : List CHAR :=
  ((path.reverse.dropWhile (!isSeparator ·)).drop 1).reverse

/-- `;dir\?.lua`. -/
def template (dir : List CHAR) : List CHAR := 59 :: dir ++ [92, 63, 46, 108, 117, 97]

section Package

variable {V H : Type} (M : Interp V H) (pkg : V)

/-- The global `package` is the table `pkg`, and its field `path` is the string `path`. -/
structure PackagePath (path : List CHAR) (heap : H) : Prop where
  package : M.getGlobal "package" heap = some (pkg, heap)
  path : M.getField pkg "path" heap = some (M.string path, heap)

/-- Lua's strings and the plain table `package`, as they are documented. -/
structure PlainPackage : Prop where
  toText_string : ∀ s, M.toText (M.string s) = s
  concat_string : ∀ s t heap,
    M.concat (M.string s) (M.string t) heap = some (M.string (s ++ t), heap)
  setField_path : ∀ {old heap}, PackagePath M pkg old heap → ∀ path,
    ∃ heap', M.setField pkg "path" (M.string path) heap = some heap' ∧
      PackagePath M pkg path heap'

/-- The assertion holds, and afterwards `package.path` is the old one followed by the
    template for the directory of the script. -/
structure AddsDirectory (fullScriptPath : List CHAR) (addr : UINT64) (old : List CHAR)
    (L : State V H) : Prop where
  backSlash : strrchr fullScriptPath 92 ≠ none
  path : ∃ L', appendScriptPathToPackagePath M fullScriptPath addr L = some L' ∧
    PackagePath M pkg (old ++ template (directory fullScriptPath)) L'.heap

end Package

/-- The last separator is a backslash, and what stands before it has at most 253
    characters. -/
def EndsInBackslash (path : List CHAR) : Prop :=
  ∃ dir name, path = dir ++ 92 :: name ∧ (∀ c ∈ name, isSeparator c = false) ∧ dir.length ≤ 253

/-! ## Paths -/

/-- What comes before and after the last character of `p`. -/
theorem exists_last {p : CHAR → Bool} {s : List CHAR} (h : ∃ c ∈ s, p c = true) :
    ∃ before c after, s = before ++ c :: after ∧ p c = true ∧ ∀ x ∈ after, p x = false := by
  have hsome : (s.reverse.find? p).isSome := by simpa using h
  obtain ⟨c, hfind⟩ := Option.isSome_iff_exists.1 hsome
  obtain ⟨hc, after, before, heq, hafter⟩ := List.find?_eq_some_iff_append.1 hfind
  refine ⟨before.reverse, c, after.reverse, ?_, hc, by simpa using hafter⟩
  simpa using congrArg List.reverse heq

theorem strrchr_eq_none {s : List CHAR} {c : CHAR} : strrchr s c = none ↔ c ∉ s := by
  rw [strrchr, Option.map_eq_none_iff, List.idxOf?_eq_none_iff, List.mem_reverse]

/-- The last occurrence of a character. -/
theorem strrchr_append {dir name : List CHAR} {c : CHAR} (h : c ∉ name) :
    strrchr (dir ++ c :: name) c = some dir.length := by
  have hidx : (dir ++ c :: name).reverse.idxOf? c = some name.length := by
    have hrev : (dir ++ c :: name).reverse = name.reverse ++ c :: dir.reverse := by simp
    rw [hrev, List.idxOf?_eq_some_iff]
    refine ⟨by simp, by simp, ?_⟩
    intro j hj heq
    rw [List.getElem_append_left (by simpa using hj)] at heq
    exact h (List.mem_reverse.1 (heq ▸ List.getElem_mem _))
  rw [strrchr, hidx]
  simp

theorem directory_append {dir name : List CHAR} {c : CHAR} (hc : isSeparator c = true)
    (hname : ∀ x ∈ name, isSeparator x = false) : directory (dir ++ c :: name) = dir := by
  have hrev : (dir ++ c :: name).reverse = name.reverse ++ c :: dir.reverse := by simp
  rw [directory, hrev, List.dropWhile_append_of_pos (by simpa using hname),
    List.dropWhile_cons_of_neg (by simp [hc])]
  simp

/-- The directory of a path goes at least as far as its last backslash, and further if other
    separators come after it. -/
theorem exists_directory_eq (dir name : List CHAR) :
    ∃ tail, directory (dir ++ 92 :: name) = dir ++ tail ∧
      (tail = [] ↔ ∀ c ∈ name, isSeparator c = false) := by
  by_cases hsep : ∃ c ∈ name, isSeparator c = true
  · obtain ⟨before, c, after, rfl, hc, hafter⟩ := exists_last hsep
    refine ⟨92 :: before, ?_, ?_⟩
    · have happ : dir ++ 92 :: (before ++ c :: after) = (dir ++ 92 :: before) ++ c :: after := by
        simp
      rw [happ, directory_append hc hafter]
    · refine iff_of_false (by simp) fun hno => ?_
      simp [hno c (by simp)] at hc
  · have hno : ∀ c ∈ name, isSeparator c = false := by simpa using hsep
    exact ⟨[], by rw [directory_append rfl hno, List.append_nil], iff_of_true rfl hno⟩

/-! ## The template -/

/-- What is added for a path with a backslash: the text before the last one, and as much of
    the pattern as fits. -/
theorem newPath_append {dir name : List CHAR} (hname : 92 ∉ name) (addr : UINT64)
    (hlen : dir.length < 2 ^ 31) :
    newPath (dir ++ 92 :: name) addr = (template dir).take MAX_PATH := by
  have hword : (addr + BitVec.ofNat 64 dir.length - addr).setWidth 32 =
      BitVec.ofNat 32 dir.length := by
    rw [BitVec.add_comm, BitVec.add_sub_cancel]
    apply BitVec.eq_of_toNat_eq
    simp
  have hnat : (BitVec.ofNat 32 dir.length).toNat = dir.length := by
    rw [BitVec.toNat_ofNat]
    omega
  have hpos : ¬ (BitVec.ofNat 32 dir.length).toInt < 0 := by
    rw [BitVec.toInt_eq_toNat_cond, hnat]
    split_ifs <;> omega
  simp only [newPath, strrchr_append hname, hword, if_neg hpos, hnat, List.take_left, template]

/-- Only the part of the template that fits is added. -/
theorem take_template_eq_iff {dir dir' : List CHAR} (h : dir.length ≤ dir'.length) :
    (template dir).take MAX_PATH = template dir' ↔ dir = dir' ∧ dir.length ≤ 253 := by
  have hlen : ∀ d : List CHAR, (template d).length = d.length + 7 := by
    intro d
    simp [template]
  constructor
  · intro heq
    have hlength := congrArg List.length heq
    rw [List.length_take, hlen, hlen, MAX_PATH] at hlength
    rw [List.take_of_length_le (by rw [hlen, MAX_PATH]; omega)] at heq
    refine ⟨?_, by omega⟩
    simpa [template] using heq
  · rintro ⟨rfl, hshort⟩
    rw [List.take_of_length_le (by rw [hlen, MAX_PATH]; omega)]

theorem endsInBackslash_iff {dir name : List CHAR} (hname : 92 ∉ name) :
    EndsInBackslash (dir ++ 92 :: name) ↔
      (∀ c ∈ name, isSeparator c = false) ∧ dir.length ≤ 253 := by
  constructor
  · rintro ⟨dir', name', heq, hname', hshort⟩
    have hno : (92 : CHAR) ∉ name' := fun hmem => by simpa [isSeparator] using hname' 92 hmem
    have hlen := congrArg (strrchr · 92) heq
    simp only [strrchr_append hname, strrchr_append hno, Option.some_inj] at hlen
    obtain ⟨rfl, hrest⟩ := List.append_inj heq hlen
    obtain ⟨-, rfl⟩ := List.cons.inj hrest
    exact ⟨hname', hshort⟩
  · rintro ⟨hsep, hshort⟩
    exact ⟨dir, name, rfl, hsep, hshort⟩

/-! ## The call -/

section Call

variable {V H : Type} {M : Interp V H} {pkg : V} {e : RunEnv V H} {argv : List (List WCHAR)}
  {h h' : Host} {debug : Bool} {args : List (List WCHAR)} {name old : List CHAR} {L : State V H}

/-- The name that is compiled fits in the array it is converted to. -/
theorem length_findScript
    (hconv : ∀ n s t, e.wcstombs n s = .ok t → t.length < n)
    (hfind : findScript e argv h = .ok (debug, args, name, h')) : name.length < MAX_PATH := by
  unfold findScript at hfind
  split at hfind
  · contradiction
  · contradiction
  · dsimp only at hfind
    split_ifs at hfind
    split at hfind
    · contradiction
    · rename_i hansi
      simp only [Except.ok.injEq, Prod.mk.injEq] at hfind
      rw [← hfind.2.2.1]
      exact hconv _ _ _ hansi

/-- The call adds the template to the path. -/
theorem appendScriptPath_of_plain (hM : PlainPackage M pkg) (hpath : PackagePath M pkg old L.heap)
    (fullScriptPath : List CHAR) (addr : UINT64) :
    ∃ L', appendScriptPathToPackagePath M fullScriptPath addr L = some L' ∧
      PackagePath M pkg (old ++ newPath fullScriptPath addr) L'.heap := by
  obtain ⟨heap', hset, hpath'⟩ := hM.setField_path hpath (old ++ newPath fullScriptPath addr)
  refine ⟨⟨L.stack, heap'⟩, ?_, hpath'⟩
  simp [appendScriptPathToPackagePath, LuaApi.getglobal, hpath.package, LuaApi.getfield,
    State.fromTop, hpath.path, LuaApi.pushstring, LuaApi.concat, hM.concat_string,
    LuaApi.setfield, hset, LuaApi.pop]

/-- A heap has one `package.path`. -/
theorem PackagePath.unique {path path' : List CHAR} {heap : H} (hM : PlainPackage M pkg)
    (hp : PackagePath M pkg path heap) (hp' : PackagePath M pkg path' heap) : path = path' := by
  have heq : M.string path = M.string path' := by
    simpa [hp.path] using hp'.path
  rw [← hM.toText_string path, heq, hM.toText_string]

/-- For the script that `Run` has found, the assertion holds and its directory is added to
    `package.path` iff the last separator of its path is a backslash, with at most 253
    characters before it. -/
theorem addsDirectory_iff (hM : PlainPackage M pkg)
    (hconv : ∀ n s t, e.wcstombs n s = .ok t → t.length < n)
    (hfind : findScript e argv h = .ok (debug, args, name, h'))
    (hpath : PackagePath M pkg old L.heap) :
    AddsDirectory M pkg name e.fileNameAddr old L ↔ EndsInBackslash name := by
  have hlen := length_findScript hconv hfind
  by_cases hback : 92 ∈ name
  · obtain ⟨dir, c, rest, rfl, hc, hrest⟩ := exists_last (p := (· = 92)) ⟨92, hback, by simp⟩
    obtain rfl : c = 92 := by simpa using hc
    have hno : (92 : CHAR) ∉ rest := fun hmem => by simpa using hrest 92 hmem
    rw [List.length_append, MAX_PATH] at hlen
    obtain ⟨L', hcall, hpath'⟩ :=
      appendScriptPath_of_plain hM hpath (dir ++ 92 :: rest) e.fileNameAddr
    rw [newPath_append hno _ (by omega)] at hpath'
    obtain ⟨tail, hdir, htail⟩ := exists_directory_eq dir rest
    have hadds : AddsDirectory M pkg (dir ++ 92 :: rest) e.fileNameAddr old L ↔
        (template dir).take MAX_PATH = template (dir ++ tail) := by
      constructor
      · rintro ⟨-, L'', hcall', hpath''⟩
        rw [hcall, Option.some_inj] at hcall'
        rw [hdir, ← hcall'] at hpath''
        exact List.append_cancel_left (hpath'.unique hM hpath'')
      · intro heq
        refine ⟨fun hnone => strrchr_eq_none.1 hnone hback, L', hcall, ?_⟩
        rwa [hdir, ← heq]
    rw [hadds, take_template_eq_iff (by simp), endsInBackslash_iff hno, ← htail]
    simp
  · refine iff_of_false (fun hadds => hadds.backSlash (strrchr_eq_none.2 hback)) ?_
    rintro ⟨dir, rest, rfl, -⟩
    simp at hback

end Call

/-! ## Two scripts -/

theorem plainPackage_smallInterp : PlainPackage smallInterp (.table "package") := by
  refine ⟨fun _ => rfl, fun _ _ _ => rfl, ?_⟩
  intro _ _ _ path
  exact ⟨path, rfl, rfl, rfl⟩

/-- Everything is a file and compiles; a name must fit to be converted. -/
def boundedEnv : RunEnv SmallValue (List CHAR) :=
  { smallEnv with
    wcstombs := fun n s =>
      if s.length < n then .ok (s.map fun c => c.toNat.toUInt8) else .error 34#32 }

theorem length_wcstombs_boundedEnv (n : ℕ) (s : List WCHAR) (t : List CHAR)
    (h : boundedEnv.wcstombs n s = .ok t) : t.length < n := by
  by_cases hlen : s.length < n
  · obtain rfl : s.map (fun c => c.toNat.toUInt8) = t := by simpa [boundedEnv, hlen] using h
    simpa using hlen
  · simp [boundedEnv, hlen] at h

/-- `package.path` is `?.lua`. -/
def pathState : State SmallValue (List CHAR) := ⟨[], ansi "?.lua"⟩

/-- The script `C:\s\a.lua`. -/
theorem addsDirectory_of_full_path :
    AddsDirectory smallInterp (.table "package") (ansi "C:\\s\\a.lua") 0x1000 (ansi "?.lua")
        pathState ↔ EndsInBackslash (ansi "C:\\s\\a.lua") :=
  addsDirectory_iff (e := boundedEnv) (h := Host.fresh fun _ => none) plainPackage_smallInterp
    length_wcstombs_boundedEnv
    (show findScript boundedEnv [[67, 58, 92, 115, 92, 97, 46, 108, 117, 97]] _ = .ok (false,
      [[67, 58, 92, 115, 92, 97, 46, 108, 117, 97]], ansi "C:\\s\\a.lua", _) from rfl)
    ⟨rfl, rfl⟩

/-- The script `a.lua` of the current directory is found, and its path has no backslash. -/
theorem addsDirectory_of_bare_name_fails :
    let h := Host.fresh fun _ => none
    findScript boundedEnv [[97, 46, 108, 117, 97]] h =
        .ok (false, [[97, 46, 108, 117, 97]], ansi "a.lua", h) ∧
      ¬ AddsDirectory smallInterp (.table "package") (ansi "a.lua") 0x1000 (ansi "?.lua")
        pathState := by
  refine ⟨rfl, fun hadds => hadds.backSlash ?_⟩
  decide

end DbgScript.Lua
