import DbgScript.Host.Frames

/-!
# The DbgEng interfaces

`acquireDbgEngIfaces`, `releaseDbgEngIfaces` and `reAcquireIfacesIfNeeded`
(src/dllmain.cpp:511-649). The five interfaces are acquired in one fixed order and
released in the reverse one. The client is saved before the first `QueryInterface`, so
an acquisition that fails half-way leaves the client cached and some interface null.

* `acquire_ok`, `acquire_failed`: what a complete and an incomplete acquisition leave.
* `release_spec`: nothing is left after a release.
* `reAcquire_same`, `reAcquire_other`: the cached client is not acquired again, and any
  other one replaces it.
-/

namespace DbgScript

/-! ## Model -/

/-- The pointer in `g_HostCtxt` to the interface `iid`. -/
def DbgEngIfaces.iface (i : DbgEngIfaces) : Iid → Option Iface
  | .IDebugControl => i.debugControl
  | .IDebugSystemObjects => i.debugSysObj
  | .IDebugSymbols3 => i.debugSymbols
  | .IDebugAdvanced2 => i.debugAdvanced
  | .IDebugDataSpaces4 => i.debugDataSpaces

def DbgEngIfaces.setIface (i : DbgEngIfaces) (p : Option Iface) : Iid → DbgEngIfaces
  | .IDebugControl => { i with debugControl := p }
  | .IDebugSystemObjects => { i with debugSysObj := p }
  | .IDebugSymbols3 => { i with debugSymbols := p }
  | .IDebugAdvanced2 => { i with debugAdvanced := p }
  | .IDebugDataSpaces4 => { i with debugDataSpaces := p }

/-- Write the interface pointers. -/
def Host.setIfaces (h : Host) (i : DbgEngIfaces) : Host :=
  { h with ctx := { h.ctx with toDbgEngIfaces := i } }

/-- The order in which `acquireDbgEngIfaces` asks for the interfaces. -/
def acquireOrder : List Iid :=
  [.IDebugControl, .IDebugSystemObjects, .IDebugSymbols3, .IDebugAdvanced2, .IDebugDataSpaces4]

/-- `client->QueryInterface(iid, &pointer)`: a failing call stores null. -/
def queryInterface (qi : Iid → HRESULT) (client : ClientId) (iid : Iid) (h : Host) : Host :=
  let h := h.emit (.com (.queryInterface client iid (qi iid)))
  h.setIfaces
    (h.ctx.toDbgEngIfaces.setIface (if FAILED (qi iid) then none else some ⟨iid, client⟩) iid)

/-- The `QueryInterface` calls of `acquireDbgEngIfaces`, which stop at the first failure. -/
def queryInterfaces (qi : Iid → HRESULT) (client : ClientId) :
    List Iid → HRESULT → Host → Host × HRESULT
  | [], hr, h => (h, hr)
  | iid :: iids, _, h =>
    let h := queryInterface qi client iid h
    if FAILED (qi iid) then (h, qi iid) else queryInterfaces qi client iids (qi iid) h

/-- `acquireDbgEngIfaces` (src/dllmain.cpp:511-557). -/
def acquireDbgEngIfaces (qi : Iid → HRESULT) (client : ClientId) (h : Host) : Host × HRESULT :=
  let h := h.setIfaces { h.ctx.toDbgEngIfaces with debugClient := some client }
  queryInterfaces qi client acquireOrder S_OK h

/-- `if (pointer) { pointer->Release(); pointer = nullptr; }`. -/
def releaseIface (h : Host) (iid : Iid) : Host :=
  match h.ctx.iface iid with
  | some i =>
    let h := h.emit (.com (.releaseIface i))
    h.setIfaces (h.ctx.toDbgEngIfaces.setIface none iid)
  | none => h

/-- `releaseDbgEngIfaces` (src/dllmain.cpp:574-613). -/
def releaseDbgEngIfaces (h : Host) : Host :=
  let h := acquireOrder.reverse.foldl releaseIface h
  match h.ctx.debugClient with
  | some client =>
    let h := h.emit (.com (.releaseClient client))
    h.setIfaces { h.ctx.toDbgEngIfaces with debugClient := none }
  | none => h

/-- `reAcquireIfacesIfNeeded` (src/dllmain.cpp:628-649). -/
def reAcquireIfacesIfNeeded (qi : Iid → HRESULT) (client : ClientId) (h : Host) :
    Host × HRESULT :=
  if h.ctx.debugClient ≠ some client then acquireDbgEngIfaces qi client (releaseDbgEngIfaces h)
  else (h, S_OK)

/-! ## Interface pointers -/

section Iface

variable (i : DbgEngIfaces) (p : Option Iface)

@[simp] theorem iface_setIface (iid : Iid) : (i.setIface p iid).iface iid = p := by
  cases iid <;> rfl

theorem iface_setIface_of_ne {iid iid' : Iid} (h : iid' ≠ iid) :
    (i.setIface p iid).iface iid' = i.iface iid' := by
  cases iid <;> cases iid' <;> first | rfl | exact absurd rfl h

@[simp] theorem debugClient_setIface (iid : Iid) :
    (i.setIface p iid).debugClient = i.debugClient := by
  cases iid <;> rfl

theorem mem_acquireOrder (iid : Iid) : iid ∈ acquireOrder := by cases iid <;> decide

end Iface

/-- No interface is held. -/
def DbgEngIfaces.Empty (i : DbgEngIfaces) : Prop :=
  i.debugClient = none ∧ ∀ iid, i.iface iid = none

/-- All interfaces are held, and they are those of `client`. -/
def DbgEngIfaces.Complete (i : DbgEngIfaces) (client : ClientId) : Prop :=
  i.debugClient = some client ∧ ∀ iid, i.iface iid = some ⟨iid, client⟩

/-- The client is held, but some interface is null. -/
def DbgEngIfaces.Incomplete (i : DbgEngIfaces) (client : ClientId) : Prop :=
  i.debugClient = some client ∧ ∃ iid, i.iface iid = none

/-- From `h` to `h'` the host has only acquired and released interfaces. -/
structure OnlyCom (h h' : Host) : Prop where
  providers : SameProviders h h'
  nullCalls : h'.nullCalls = h.nullCalls

variable {h h' h'' : Host}

theorem OnlyCom.refl (h : Host) : OnlyCom h h := ⟨SameProviders.refl h, rfl⟩

theorem OnlyCom.trans (h1 : OnlyCom h h') (h2 : OnlyCom h' h'') : OnlyCom h h'' :=
  ⟨h1.providers.trans h2.providers, h2.nullCalls.trans h1.nullCalls⟩

theorem onlyCom_setIfaces (h : Host) (i : DbgEngIfaces) : OnlyCom h (h.setIfaces i) :=
  ⟨⟨rfl, rfl, rfl, rfl, rfl, rfl⟩, rfl⟩

theorem onlyCom_emit (h : Host) (c : ComCall) : OnlyCom h (h.emit (.com c)) := by
  refine ⟨⟨rfl, rfl, rfl, rfl, rfl, ?_⟩, ?_⟩
  · simp [Host.provCalls, HostCall.prov?]
  · simp [Host.nullCalls, HostCall.viaNull]

@[simp] theorem comCalls_emit (h : Host) (c : ComCall) :
    (h.emit (.com c)).comCalls = h.comCalls ++ [c] := by
  simp [Host.comCalls, HostCall.com?]

@[simp] theorem comCalls_setIfaces (h : Host) (i : DbgEngIfaces) :
    (h.setIfaces i).comCalls = h.comCalls := rfl

/-! ## Acquiring -/

theorem onlyCom_queryInterface (qi : Iid → HRESULT) (client : ClientId) (iid : Iid) (h : Host) :
    OnlyCom h (queryInterface qi client iid h) :=
  (onlyCom_emit h _).trans (onlyCom_setIfaces _ _)

theorem onlyCom_queryInterfaces (qi : Iid → HRESULT) (client : ClientId) (iids : List Iid)
    (hr : HRESULT) (h : Host) : OnlyCom h (queryInterfaces qi client iids hr h).1 := by
  induction iids generalizing hr h with
  | nil => exact OnlyCom.refl h
  | cons iid iids ih =>
    have h1 := onlyCom_queryInterface qi client iid h
    simp only [queryInterfaces]
    split_ifs
    · exact h1
    · exact h1.trans (ih _ _)

@[simp] theorem iface_queryInterface (qi : Iid → HRESULT) (client : ClientId) (iid : Iid)
    (h : Host) :
    (queryInterface qi client iid h).ctx.iface iid =
      if FAILED (qi iid) then none else some ⟨iid, client⟩ :=
  iface_setIface _ _ _

theorem iface_queryInterface_of_ne (qi : Iid → HRESULT) (client : ClientId) {iid iid' : Iid}
    (hne : iid' ≠ iid) (h : Host) :
    (queryInterface qi client iid h).ctx.iface iid' = h.ctx.iface iid' :=
  iface_setIface_of_ne _ _ hne

theorem debugClient_queryInterfaces (qi : Iid → HRESULT) (client : ClientId) (iids : List Iid)
    (hr : HRESULT) (h : Host) :
    (queryInterfaces qi client iids hr h).1.ctx.debugClient = h.ctx.debugClient := by
  induction iids generalizing hr h with
  | nil => rfl
  | cons iid iids ih =>
    have h1 : (queryInterface qi client iid h).ctx.debugClient = h.ctx.debugClient :=
      debugClient_setIface _ _ _
    simp only [queryInterfaces]
    split_ifs
    · exact h1
    · exact (ih _ _).trans h1

theorem iface_queryInterfaces_of_notMem (qi : Iid → HRESULT) (client : ClientId) {iids : List Iid}
    {iid : Iid} (hne : iid ∉ iids) (hr : HRESULT) (h : Host) :
    (queryInterfaces qi client iids hr h).1.ctx.iface iid = h.ctx.iface iid := by
  induction iids generalizing hr h with
  | nil => rfl
  | cons iid' iids ih =>
    rw [List.mem_cons, not_or] at hne
    have h1 := iface_queryInterface_of_ne qi client hne.1 h
    simp only [queryInterfaces]
    split_ifs
    · exact h1
    · exact (ih hne.2 _ _).trans h1

/-- All calls succeed: every pointer is set. -/
theorem queryInterfaces_ok {qi : Iid → HRESULT} (client : ClientId) (iids : List Iid)
    (hnd : iids.Nodup) (hqi : ∀ iid ∈ iids, FAILED (qi iid) = false) (hr : HRESULT)
    (hhr : FAILED hr = false) (h : Host) :
    FAILED (queryInterfaces qi client iids hr h).2 = false ∧
      (∀ iid ∈ iids,
        (queryInterfaces qi client iids hr h).1.ctx.iface iid = some ⟨iid, client⟩) ∧
      (queryInterfaces qi client iids hr h).1.comCalls =
        h.comCalls ++ iids.map fun iid => .queryInterface client iid (qi iid) := by
  induction iids generalizing hr h with
  | nil => exact ⟨hhr, by simp, (List.append_nil _).symm⟩
  | cons iid iids ih =>
    have hq := hqi iid List.mem_cons_self
    rw [List.nodup_cons] at hnd
    obtain ⟨h1, h2, h3⟩ := ih hnd.2 (fun i hi => hqi i (List.mem_cons_of_mem _ hi)) _ hq
      (queryInterface qi client iid h)
    have hstep : queryInterfaces qi client (iid :: iids) hr h =
        queryInterfaces qi client iids (qi iid) (queryInterface qi client iid h) := by
      rw [queryInterfaces, if_neg (by simp [hq])]
    rw [hstep]
    refine ⟨h1, ?_, ?_⟩
    · intro iid' hmem
      rcases List.mem_cons.mp hmem with rfl | hmem
      · rw [iface_queryInterfaces_of_notMem qi client hnd.1, iface_queryInterface, hq]
        rfl
      · exact h2 iid' hmem
    · rw [h3]
      simp [queryInterface]

/-- Some call fails: its pointer is null. -/
theorem queryInterfaces_failed {qi : Iid → HRESULT} (client : ClientId) {iids : List Iid}
    (hqi : ∃ iid ∈ iids, FAILED (qi iid) = true) (hr : HRESULT) (h : Host) :
    FAILED (queryInterfaces qi client iids hr h).2 = true ∧
      ∃ iid, (queryInterfaces qi client iids hr h).1.ctx.iface iid = none := by
  induction iids generalizing hr h with
  | nil => simp at hqi
  | cons iid iids ih =>
    rw [queryInterfaces]
    by_cases hq : FAILED (qi iid) = true
    · rw [if_pos hq]
      exact ⟨hq, iid, by simp [hq]⟩
    · rw [if_neg hq]
      obtain ⟨iid', hmem, hq'⟩ := hqi
      rcases List.mem_cons.mp hmem with rfl | hmem
      · exact absurd hq' hq
      · exact ih ⟨iid', hmem, hq'⟩ _ _

/-- Every `QueryInterface` call succeeds. -/
def QueriesOk (qi : Iid → HRESULT) : Prop := ∀ iid, FAILED (qi iid) = false

theorem onlyCom_acquire (qi : Iid → HRESULT) (client : ClientId) (h : Host) :
    OnlyCom h (acquireDbgEngIfaces qi client h).1 :=
  (onlyCom_setIfaces h _).trans (onlyCom_queryInterfaces _ _ _ _ _)

/-- A complete acquisition. -/
theorem acquire_ok {qi : Iid → HRESULT} (hqi : QueriesOk qi) (client : ClientId) (h : Host) :
    FAILED (acquireDbgEngIfaces qi client h).2 = false ∧
      (acquireDbgEngIfaces qi client h).1.ctx.Complete client ∧
      (acquireDbgEngIfaces qi client h).1.comCalls =
        h.comCalls ++ acquireOrder.map fun iid => .queryInterface client iid (qi iid) := by
  obtain ⟨h1, h2, h3⟩ := queryInterfaces_ok client acquireOrder (by decide)
    (fun iid _ => hqi iid) S_OK rfl
    (h.setIfaces { h.ctx.toDbgEngIfaces with debugClient := some client })
  exact ⟨h1, ⟨debugClient_queryInterfaces .., fun iid => h2 iid (mem_acquireOrder iid)⟩, h3⟩

/-- An incomplete acquisition: the client is cached all the same. -/
theorem acquire_failed {qi : Iid → HRESULT} (hqi : ¬ QueriesOk qi) (client : ClientId) (h : Host) :
    FAILED (acquireDbgEngIfaces qi client h).2 = true ∧
      (acquireDbgEngIfaces qi client h).1.ctx.Incomplete client := by
  have hqi' : ∃ iid ∈ acquireOrder, FAILED (qi iid) = true := by
    unfold QueriesOk at hqi
    push Not at hqi
    obtain ⟨iid, hf⟩ := hqi
    exact ⟨iid, mem_acquireOrder iid, by simpa using hf⟩
  obtain ⟨h1, h2⟩ := queryInterfaces_failed client hqi' S_OK
    (h.setIfaces { h.ctx.toDbgEngIfaces with debugClient := some client })
  exact ⟨h1, debugClient_queryInterfaces .., h2⟩

/-- `IDebugControl` is asked for first. -/
theorem debugControl_acquire (qi : Iid → HRESULT) (client : ClientId) (h : Host) :
    (acquireDbgEngIfaces qi client h).1.ctx.debugControl =
      if FAILED (qi .IDebugControl) then none else some ⟨.IDebugControl, client⟩ := by
  unfold acquireDbgEngIfaces acquireOrder
  dsimp only
  rw [queryInterfaces]
  split_ifs with hq
  · exact (iface_queryInterface qi client .IDebugControl _).trans (if_pos hq)
  · exact (iface_queryInterfaces_of_notMem qi client (by decide) _ _).trans
      ((iface_queryInterface qi client .IDebugControl _).trans (if_neg hq))

/-! ## Releasing -/

theorem onlyCom_releaseIface (h : Host) (iid : Iid) : OnlyCom h (releaseIface h iid) := by
  unfold releaseIface
  split
  · exact (onlyCom_emit h _).trans (onlyCom_setIfaces _ _)
  · exact OnlyCom.refl h

theorem iface_releaseIface (h : Host) (iid iid' : Iid) :
    (releaseIface h iid).ctx.iface iid' = if iid' = iid then none else h.ctx.iface iid' := by
  unfold releaseIface
  split
  · split_ifs with he
    · rw [he]
      exact iface_setIface _ _ _
    · exact iface_setIface_of_ne _ _ he
  · next hnone =>
    split_ifs with he
    · rw [he, hnone]
    · rfl

theorem debugClient_releaseIface (h : Host) (iid : Iid) :
    (releaseIface h iid).ctx.debugClient = h.ctx.debugClient := by
  unfold releaseIface
  split
  · exact debugClient_setIface _ _ _
  · rfl

theorem releaseIfaces_spec (iids : List Iid) (h : Host) :
    OnlyCom h (iids.foldl releaseIface h) ∧
      (iids.foldl releaseIface h).ctx.debugClient = h.ctx.debugClient ∧
      ∀ iid, (iids.foldl releaseIface h).ctx.iface iid =
        if iid ∈ iids then none else h.ctx.iface iid := by
  induction iids generalizing h with
  | nil => exact ⟨OnlyCom.refl h, rfl, by simp⟩
  | cons iid iids ih =>
    obtain ⟨h1, h2, h3⟩ := ih (releaseIface h iid)
    refine ⟨(onlyCom_releaseIface h iid).trans h1, h2.trans (debugClient_releaseIface h iid), ?_⟩
    intro iid'
    rw [List.foldl_cons, h3, iface_releaseIface]
    by_cases h1 : iid' = iid <;> by_cases h2 : iid' ∈ iids <;> simp [h1, h2]

/-- The releases of a complete set of interfaces. -/
theorem comCalls_releaseIfaces {client : ClientId} (iids : List Iid) (hnd : iids.Nodup) (h : Host)
    (hc : ∀ iid ∈ iids, h.ctx.iface iid = some ⟨iid, client⟩) :
    (iids.foldl releaseIface h).comCalls =
      h.comCalls ++ iids.map fun iid => .releaseIface ⟨iid, client⟩ := by
  induction iids generalizing h with
  | nil => exact (List.append_nil _).symm
  | cons iid iids ih =>
    rw [List.nodup_cons] at hnd
    have hrest : ∀ iid' ∈ iids, (releaseIface h iid).ctx.iface iid' = some ⟨iid', client⟩ := by
      intro iid' hmem
      have hne : iid' ≠ iid := fun he => hnd.1 (he ▸ hmem)
      rw [iface_releaseIface, if_neg hne]
      exact hc iid' (List.mem_cons_of_mem _ hmem)
    have hstep : (releaseIface h iid).comCalls = h.comCalls ++ [.releaseIface ⟨iid, client⟩] := by
      unfold releaseIface
      rw [hc iid List.mem_cons_self]
      exact comCalls_emit h _
    rw [List.foldl_cons, ih hnd.2 _ hrest, hstep, List.append_assoc]
    rfl

/-- A release leaves nothing, and only concerns the interfaces. -/
theorem release_spec (h : Host) :
    OnlyCom h (releaseDbgEngIfaces h) ∧ (releaseDbgEngIfaces h).ctx.Empty := by
  obtain ⟨h1, h2, h3⟩ := releaseIfaces_spec acquireOrder.reverse h
  have hnone : ∀ iid, (acquireOrder.reverse.foldl releaseIface h).ctx.iface iid = none := by
    intro iid
    rw [h3, if_pos (List.mem_reverse.mpr (mem_acquireOrder iid))]
  unfold releaseDbgEngIfaces
  dsimp only
  split
  · refine ⟨h1.trans ((onlyCom_emit _ _).trans (onlyCom_setIfaces _ _)), rfl, ?_⟩
    intro iid
    rw [← hnone iid]
    cases iid <;> rfl
  · next hc => exact ⟨h1, hc, hnone⟩

/-- What is released from a complete set of interfaces: each of them, and the client. -/
theorem comCalls_release {h : Host} {client : ClientId} (hc : h.ctx.Complete client) :
    (releaseDbgEngIfaces h).comCalls =
      h.comCalls ++ acquireOrder.reverse.map (fun iid => .releaseIface ⟨iid, client⟩) ++
        [.releaseClient client] := by
  have h1 := comCalls_releaseIfaces acquireOrder.reverse (by decide) h
    fun iid _ => hc.2 iid
  have h2 := (releaseIfaces_spec acquireOrder.reverse h).2.1.trans hc.1
  unfold releaseDbgEngIfaces
  dsimp only
  rw [h2, ← h1]
  exact comCalls_emit _ _

/-- Nothing is released from an empty set of interfaces. -/
theorem release_empty {h : Host} (he : h.ctx.Empty) : releaseDbgEngIfaces h = h := by
  have hstep : ∀ iid, releaseIface h iid = h := by
    intro iid
    unfold releaseIface
    rw [he.2 iid]
  have hfold : acquireOrder.reverse.foldl releaseIface h = h := by
    simp [acquireOrder, hstep]
  unfold releaseDbgEngIfaces
  dsimp only
  rw [hfold, he.1]

/-! ## Re-acquiring -/

theorem onlyCom_reAcquire (qi : Iid → HRESULT) (client : ClientId) (h : Host) :
    OnlyCom h (reAcquireIfacesIfNeeded qi client h).1 := by
  unfold reAcquireIfacesIfNeeded
  split_ifs
  · exact (release_spec h).1.trans (onlyCom_acquire qi client _)
  · exact OnlyCom.refl h

theorem reAcquire_same {qi : Iid → HRESULT} {client : ClientId} {h : Host}
    (hc : h.ctx.debugClient = some client) :
    reAcquireIfacesIfNeeded qi client h = (h, S_OK) := by
  rw [reAcquireIfacesIfNeeded, if_neg (not_not.mpr hc)]

theorem reAcquire_other {qi : Iid → HRESULT} {client : ClientId} {h : Host}
    (hc : h.ctx.debugClient ≠ some client) :
    reAcquireIfacesIfNeeded qi client h =
      acquireDbgEngIfaces qi client (releaseDbgEngIfaces h) := by
  rw [reAcquireIfacesIfNeeded, if_pos hc]

end DbgScript
