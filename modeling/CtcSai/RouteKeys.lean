/-
# `RouteKeys` — the database key and the hardware key of a route

The database keeps the address of an entry as the caller wrote it, host bits
and all; the SDK masks them off.  Two entries that differ in host bits only
are then two records over one hardware route.  Apart from these the two
encodings tell the same entries apart, and in runs that create none beside
another, no call on one record touches the route of another.
-/
import CtcSai.Lib.Run
import CtcSai.Route

namespace CtcSai

open KeyedTable Runs Table

/-! ## What an entry says -/

def IpFamily.width : IpFamily → Nat
  | .ipv4 => 32
  | .ipv6 => 128

/-- The words of a union that a family reads. -/
def IpFamily.read : IpFamily → IpWords → IpWords
  | .ipv4, a => { IpWords.zero with w0 := a.w0 }
  | .ipv6, a => a

def IpPrefix.address (p : IpPrefix) : IpWords := p.addrFamily.read p.addr

def IpPrefix.netmask (p : IpPrefix) : IpWords := p.addrFamily.read p.mask

/-- The address without its host bits. -/
def IpPrefix.network (p : IpPrefix) : IpWords := p.address.and p.netmask

def IpPrefix.Contiguous (p : IpPrefix) : Prop :=
  ∃ len, len ≤ p.addrFamily.width ∧ ntohV6 p.netmask = maskV6 len

/-- A virtual router and a contiguous mask. -/
structure RouteEntry.Accepted (e : RouteEntry) : Prop where
  vr : e.vrId.type = ObjectType.virtualRouter.bits
  mask : e.destination.Contiguous

/-- The two entries name one network of one router by different addresses. -/
def DifferInHostBitsOnly (e e' : RouteEntry) : Prop :=
  e.vrId.value.setWidth 16 = e'.vrId.value.setWidth 16 ∧
    e.destination.addrFamily = e'.destination.addrFamily ∧
    e.destination.netmask = e'.destination.netmask ∧
    e.destination.network = e'.destination.network ∧
    e.destination.address ≠ e'.destination.address

/-! ## The two keys -/

@[simp] theorem maskWord_zero : maskWord 0 = 0 := by decide

theorem maskV6_of_le {len : Nat} (h : len ≤ 32) :
    maskV6 len = { IpWords.zero with w0 := maskWord len } := by
  have h1 : len - 32 = 0 := by omega
  have h2 : len - 64 = 0 := by omega
  have h3 : len - 96 = 0 := by omega
  simp [maskV6, IpWords.zero, h1, h2, h3]

theorem ntohV6_read (f : IpFamily) (a : IpWords) : ntohV6 (f.read a) = f.read (ntohV6 a) := by
  cases f with
  | ipv4 => simp [IpFamily.read, ntohV6, IpWords.map, IpWords.zero]
  | ipv6 => rfl

variable {m : MaskToLen} {e e' : RouteEntry}

/-- The mask length both encoders compute. -/
def prefixLen (m : MaskToLen) (p : IpPrefix) : BitVec 8 :=
  match p.addrFamily with
  | .ipv4 => m.v4 (ntohV6 p.mask).w0
  | .ipv6 => m.v6 (ntohV6 p.mask)

theorem mappingRouteKey_eq (m : MaskToLen) (e : RouteEntry) :
    mappingRouteKey m e = ⟨e.vrId.value.setWidth 16, prefixLen m e.destination,
      e.destination.addrFamily, e.destination.address⟩ := by
  unfold mappingRouteKey prefixLen IpPrefix.address
  cases e.destination.addrFamily <;> rfl

theorem mappingIpucKey_eq (m : MaskToLen) (h : e.Accepted) :
    mappingIpucKey m e = ⟨e.vrId.value.setWidth 16, e.destination.addrFamily,
      ntohV6 e.destination.addr, prefixLen m e.destination⟩ := by
  unfold mappingIpucKey oidGetVrfId
  rw [if_pos h.vr]
  rfl

variable {p : IpPrefix}

theorem prefixLen_of_contiguous {len : Nat} (hle : len ≤ p.addrFamily.width)
    (h : ntohV6 p.netmask = maskV6 len) : prefixLen m p = BitVec.ofNat 8 len := by
  rcases p with ⟨family, addr, mask⟩
  cases family with
  | ipv4 =>
    have h0 : (ntohV6 mask).w0 = maskWord len := congrArg IpWords.w0 h
    show m.v4 (ntohV6 mask).w0 = _
    rw [h0]
    exact m.v4_maskWord len hle
  | ipv6 =>
    show m.v6 (ntohV6 mask) = _
    have h0 : ntohV6 mask = maskV6 len := h
    rw [h0]
    exact m.v6_maskV6 len hle

theorem width_lt (f : IpFamily) : f.width < 2 ^ 8 := by
  cases f <;> decide

theorem maskV6_prefixLen (h : p.Contiguous) : maskV6 (prefixLen m p).toNat = ntohV6 p.netmask := by
  obtain ⟨len, hle, hmask⟩ := h
  have hlt := width_lt p.addrFamily
  have hmod : len % 2 ^ 8 = len := by omega
  rw [prefixLen_of_contiguous hle hmask, BitVec.toNat_ofNat, hmod, hmask]

/-- Contiguous masks of one family have one length only if they are the same. -/
theorem prefixLen_inj {q : IpPrefix} (hp : p.Contiguous) (hq : q.Contiguous)
    (hf : p.addrFamily = q.addrFamily) :
    prefixLen m p = prefixLen m q ↔ p.netmask = q.netmask := by
  constructor
  · intro h
    apply ntohV6_inj.mp
    rw [← maskV6_prefixLen hp, ← maskV6_prefixLen hq, h]
  · intro h
    obtain ⟨len, hle, hmask⟩ := hp
    rw [prefixLen_of_contiguous hle hmask]
    rw [h] at hmask
    rw [hf] at hle
    rw [prefixLen_of_contiguous hle hmask]

/-- The key the SDK's table has for an entry. -/
def routeTableKey (m : MaskToLen) (e : RouteEntry) : IpucKey := (mappingIpucKey m e).tableKey

theorem routeTableKey_eq (h : e.Accepted) :
    routeTableKey m e = ⟨e.vrId.value.setWidth 16, e.destination.addrFamily,
      ntohV6 e.destination.network, prefixLen m e.destination⟩ := by
  obtain ⟨len, hle, hmask⟩ := h.mask
  have hback := maskV6_prefixLen (m := m) h.mask
  rw [routeTableKey, mappingIpucKey_eq m h, IpPrefix.network, ntohV6_and, ← hback,
    IpPrefix.address, ntohV6_read]
  cases hf : e.destination.addrFamily with
  | ipv4 =>
    rw [hf] at hle
    have hlen : (prefixLen m e.destination).toNat ≤ 32 := by
      have hcut : (BitVec.ofNat 8 len).toNat ≤ len := by
        exact Nat.mod_le _ _
      rw [prefixLen_of_contiguous (hf ▸ hle) hmask]
      exact Nat.le_trans hcut hle
    rw [maskV6_of_le hlen]
    simp [IpucKey.tableKey, IpFamily.read, IpWords.and, IpWords.zero]
  | ipv6 => rfl

theorem mappingRouteKey_inj (h : e.Accepted) (h' : e'.Accepted) :
    mappingRouteKey m e = mappingRouteKey m e' ↔
      e.vrId.value.setWidth 16 = e'.vrId.value.setWidth 16 ∧
        e.destination.addrFamily = e'.destination.addrFamily ∧
        e.destination.netmask = e'.destination.netmask ∧
        e.destination.address = e'.destination.address := by
  rw [mappingRouteKey_eq, mappingRouteKey_eq, RouteKey.mk.injEq]
  constructor
  · rintro ⟨hvr, hlen, hf, ha⟩
    exact ⟨hvr, hf, (prefixLen_inj h.mask h'.mask hf).mp hlen, ha⟩
  · rintro ⟨hvr, hf, hm, ha⟩
    exact ⟨hvr, (prefixLen_inj h.mask h'.mask hf).mpr hm, hf, ha⟩

theorem routeTableKey_inj (h : e.Accepted) (h' : e'.Accepted) :
    routeTableKey m e = routeTableKey m e' ↔
      e.vrId.value.setWidth 16 = e'.vrId.value.setWidth 16 ∧
        e.destination.addrFamily = e'.destination.addrFamily ∧
        e.destination.netmask = e'.destination.netmask ∧
        e.destination.network = e'.destination.network := by
  rw [routeTableKey_eq h, routeTableKey_eq h', IpucKey.mk.injEq]
  constructor
  · rintro ⟨hvr, hf, hn, hlen⟩
    exact ⟨hvr, hf, (prefixLen_inj h.mask h'.mask hf).mp hlen, ntohV6_inj.mp hn⟩
  · rintro ⟨hvr, hf, hm, hn⟩
    exact ⟨hvr, hf, ntohV6_inj.mpr hn, (prefixLen_inj h.mask h'.mask hf).mpr hm⟩

theorem routeTableKey_of_key (h : e.Accepted) (h' : e'.Accepted)
    (hk : mappingRouteKey m e = mappingRouteKey m e') :
    routeTableKey m e = routeTableKey m e' := by
  obtain ⟨hvr, hf, hm, ha⟩ := (mappingRouteKey_inj h h').mp hk
  refine (routeTableKey_inj h h').mpr ⟨hvr, hf, hm, ?_⟩
  rw [IpPrefix.network, IpPrefix.network, ha, hm]

theorem differ_iff (h : e.Accepted) (h' : e'.Accepted) : DifferInHostBitsOnly e e' ↔
      routeTableKey m e = routeTableKey m e' ∧ mappingRouteKey m e ≠ mappingRouteKey m e' := by
  constructor
  · rintro ⟨hvr, hf, hm, hn, ha⟩
    refine ⟨(routeTableKey_inj h h').mpr ⟨hvr, hf, hm, hn⟩, ?_⟩
    intro hk
    exact ha ((mappingRouteKey_inj h h').mp hk).2.2.2
  · rintro ⟨ht, hk⟩
    obtain ⟨hvr, hf, hm, hn⟩ := (routeTableKey_inj h h').mp ht
    refine ⟨hvr, hf, hm, hn, ?_⟩
    intro ha
    exact hk ((mappingRouteKey_inj h h').mpr ⟨hvr, hf, hm, ha⟩)

/-- The two keys agree on a pair of entries exactly when these do not differ
in their host bits alone. -/
theorem keys_agree_iff (h : e.Accepted) (h' : e'.Accepted) :
    (mappingRouteKey m e = mappingRouteKey m e' ↔ routeTableKey m e = routeTableKey m e') ↔
      ¬ DifferInHostBitsOnly e e' := by
  rw [differ_iff h h']
  constructor
  · rintro hiff ⟨ht, hk⟩
    exact hk (hiff.mpr ht)
  · intro hnot
    constructor
    · exact routeTableKey_of_key h h'
    · intro ht
      by_contra hk
      exact hnot ⟨ht, hk⟩

/-! ## Runs -/

/-- The calls on the routes and on the counters they use, each with what the
SDK answers. -/
inductive RouteOp where
  | create (sdk : RouteSdk) (e : RouteEntry) (attrs : List RouteAttr)
  | remove (sdk : RouteSdk) (e : RouteEntry)
  | set (sdk : RouteSdk) (e : RouteEntry) (attr : RouteAttr)
  | bulkCreate (mode : BulkOpErrorMode) (objects : List (RouteSdk × RouteEntry × List RouteAttr))
  | bulkRemove (mode : BulkOpErrorMode) (objects : List (RouteSdk × RouteEntry))
  | bulkSet (mode : BulkOpErrorMode) (objects : List (RouteSdk × RouteEntry × RouteAttr))
  | createCounter (sdk : Sdk) (type : Option SaiCounterType)
  | removeCounter (oid : Oid)

variable {ch : Chip} {db db' : RouteDb ch}
variable {k : RouteKey} {sdk : RouteSdk}

def routeStep (m : MaskToLen) (db : RouteDb ch) : RouteOp → Option (RouteDb ch)
  | .create sdk e attrs => some (createRoute m sdk db e attrs).2
  | .remove sdk e => some (removeRoute m sdk db e).2
  | .set sdk e attr => some (setRouteAttr m sdk db e attr).2
  | .bulkCreate mode objects => (bulkCreateRoute m db mode objects).map Prod.snd
  | .bulkRemove mode objects => (bulkRemoveRoute m db mode objects).map Prod.snd
  | .bulkSet mode objects => (bulkSetRouteAttr m db mode objects).map Prod.snd
  | .createCounter sdk type =>
    some { db with counters := (createCounter sdk db.counters type).2.2 }
  | .removeCounter oid => some { db with counters := (removeCounter db.counters oid).2 }

def RouteStart (db : RouteDb ch) : Prop := db.routes = ∅

def RouteDb.Live (db : RouteDb ch) (m : MaskToLen) (e : RouteEntry) : Prop :=
  (db.routes.lookup (mappingRouteKey m e)).isSome

instance (db : RouteDb ch) (m : MaskToLen) (e : RouteEntry) : Decidable (db.Live m e) :=
  inferInstanceAs (Decidable ((db.routes.lookup (mappingRouteKey m e)).isSome = true))

/-- A creation that is let through beside the live records. -/
def CreateRouteSafe (m : MaskToLen) (db : RouteDb ch) (e : RouteEntry) : Prop :=
  e.Accepted ∧ ∀ e', e'.Accepted → db.Live m e' → ¬ DifferInHostBitsOnly e e'

/-- Every entry is of a virtual router and has a contiguous mask, and none is
created beside a live one it differs from in host bits only. -/
def RouteSafe (m : MaskToLen) (db : RouteDb ch) : RouteOp → Prop
  | .create _ e _ => CreateRouteSafe m db e
  | .remove _ e => e.Accepted
  | .set _ e _ => e.Accepted
  | .bulkCreate mode objects =>
    BulkAdmitted (fun db o =>
      let r := createRoute m o.1 db o.2.1 o.2.2
      some (r.1, (), r.2)) mode (fun db o => CreateRouteSafe m db o.2.1) db objects
  | .bulkRemove _ objects => ∀ o ∈ objects, o.2.Accepted
  | .bulkSet _ objects => ∀ o ∈ objects, o.2.1.Accepted
  | .createCounter _ _ => True
  | .removeCounter _ => True

/-- No two records share a hardware route, and removing one leaves the record
and the hardware route of every other. -/
structure RoutesApart (m : MaskToLen) (db : RouteDb ch) : Prop where
  /-- Every record is of an entry of a virtual router with a contiguous mask. -/
  entry : ∀ k, (db.routes.lookup k).isSome → ∃ e : RouteEntry, e.Accepted ∧ mappingRouteKey m e = k
  apart : ∀ e e' : RouteEntry, e.Accepted → e'.Accepted → db.Live m e → db.Live m e' →
    routeTableKey m e = routeTableKey m e' → mappingRouteKey m e = mappingRouteKey m e'
  removed : ∀ (sdk : RouteSdk) (e e' : RouteEntry), e.Accepted → e'.Accepted → db.Live m e' →
    mappingRouteKey m e ≠ mappingRouteKey m e' →
    (removeRoute m sdk db e).2.routes.lookup (mappingRouteKey m e') =
        db.routes.lookup (mappingRouteKey m e') ∧
      (removeRoute m sdk db e).2.ipuc.lookup (routeTableKey m e') =
        db.ipuc.lookup (routeTableKey m e')

/-! ## What the calls write -/

theorem count_routes (db : RouteDb ch) (e : RouteEntry) (d : BitVec 32) :
    (db.count e d).routes = db.routes := rfl

theorem routeCreate_live (m : MaskToLen) (sdk : RouteSdk) (db : RouteDb ch) (e : RouteEntry)
    (attrs : List RouteAttr) (h : ((routeCreate m sdk db e attrs).2.routes.lookup k).isSome) :
    (db.routes.lookup k).isSome ∨ k = mappingRouteKey m e := by
  generalize hr : routeCreate m sdk db e attrs = r at h
  unfold routeCreate at hr
  dsimp only at hr
  split at hr
  · subst hr; exact .inl h
  split at hr
  · subst hr; exact .inl h
  split at hr
  · split at hr
    · split at hr
      · next hb =>
        subst hr
        unfold routeBuildDb at hb
        split at hb
        · cases hb
        split at hb
        · cases hb
        split at hb
        · cases hb
        cases hb
        rw [lookup_insert_ite] at h
        split at h
        · next hk => exact .inr hk
        · exact .inl h
      · subst hr
        split at h
        · exact .inl h
        · exact .inl h
    · subst hr; exact .inl h
  · subst hr; exact .inl h

theorem createRoute_live {attrs : List RouteAttr}
    (h : ((createRoute m sdk db e attrs).2.routes.lookup k).isSome) :
    (db.routes.lookup k).isSome ∨ k = mappingRouteKey m e := by
  have hl := routeCreate_live m sdk db e attrs (k := k)
  unfold createRoute at h
  split at h
  · next heq =>
    rw [heq] at hl
    exact hl h
  · next heq =>
    rw [heq] at hl
    exact hl h

/-- What a removal does: nothing to the routes, or it takes the record's
hardware route away, and perhaps the record. -/
inductive RouteRemoved (m : MaskToLen) (db : RouteDb ch) (e : RouteEntry) (db' : RouteDb ch) :
    Prop where
  | kept (routes : db'.routes = db.routes) (ipuc : db'.ipuc = db.ipuc)
  | cut (live : db.Live m e) (routes : db'.routes = db.routes)
      (ipuc : db'.ipuc = db.ipuc.erase (routeTableKey m e))
  | gone (live : db.Live m e) (routes : db'.routes = db.routes.erase (mappingRouteKey m e))
      (ipuc : db'.ipuc = db.ipuc.erase (routeTableKey m e))

theorem routeRemove_removed (m : MaskToLen) (sdk : RouteSdk) (db : RouteDb ch)
    (e : RouteEntry) : RouteRemoved m db e (routeRemove m sdk db e).2 := by
  unfold routeRemove
  split
  · exact .kept rfl rfl
  next r hl =>
  have hlive : db.Live m e := by
    rw [RouteDb.Live, hl]
    rfl
  dsimp only
  split
  · split
    · split
      · exact .gone hlive rfl rfl
      · exact .cut hlive rfl rfl
    · exact .kept rfl rfl
  · exact .kept rfl rfl

theorem removeRoute_removed (m : MaskToLen) (sdk : RouteSdk) (db : RouteDb ch)
    (e : RouteEntry) : RouteRemoved m db e (removeRoute m sdk db e).2 := by
  have h := routeRemove_removed m sdk db e
  unfold removeRoute
  split
  · next heq =>
    rw [heq] at h
    cases h with
    | kept hr hi => exact .kept hr hi
    | cut hl hr hi => exact .cut hl hr hi
    | gone hl hr hi => exact .gone hl hr hi
  · next heq =>
    rw [heq] at h
    exact h

theorem routeSetAttr_live (m : MaskToLen) (sdk : RouteSdk) (db : RouteDb ch) (e : RouteEntry)
    (attr : RouteAttr) (h : ((routeSetAttr m sdk db e attr).2.routes.lookup k).isSome) :
    (db.routes.lookup k).isSome := by
  generalize hr : routeSetAttr m sdk db e attr = r at h
  unfold routeSetAttr at hr
  dsimp only at hr
  split at hr
  · subst hr; exact h
  next hl =>
  split at hr
  · subst hr; exact h
  split at hr
  · subst hr; exact h
  split at hr
  · split at hr
    · split at hr
      · subst hr
        rw [lookup_insert_ite] at h
        split at h
        · next hk => rw [hk, hl]; rfl
        · exact h
      · subst hr; exact h
    · subst hr; exact h
  · subst hr; exact h

theorem setRouteAttr_live {attr : RouteAttr}
    (h : ((setRouteAttr m sdk db e attr).2.routes.lookup k).isSome) :
    (db.routes.lookup k).isSome := by
  unfold setRouteAttr at h
  split at h
  · exact h
  · exact routeSetAttr_live m sdk db e _ h

/-! ## The invariant -/

/-- Every record is of an accepted entry, and no two of them differ in host
bits only. -/
structure RouteInv (m : MaskToLen) (db : RouteDb ch) : Prop where
  entry : ∀ k, (db.routes.lookup k).isSome → ∃ e : RouteEntry, e.Accepted ∧ mappingRouteKey m e = k
  distinct : ∀ e e' : RouteEntry, e.Accepted → e'.Accepted → db.Live m e → db.Live m e' →
    ¬ DifferInHostBitsOnly e e'

theorem RouteInv.start (h : RouteStart db) : RouteInv m db := by
  constructor
  · intro k hk
    rw [h] at hk
    cases hk
  · intro e e' _ _ he
    rw [RouteDb.Live, h] at he
    cases he

/-- Fewer records keep the invariant. -/
theorem RouteInv.mono (h : RouteInv m db)
    (hsub : ∀ k, (db'.routes.lookup k).isSome → (db.routes.lookup k).isSome) :
    RouteInv m db' := by
  constructor
  · intro k hk
    exact h.entry k (hsub k hk)
  · intro e e' ha ha' hl hl'
    exact h.distinct e e' ha ha' (hsub _ hl) (hsub _ hl')

theorem RouteInv.add (h : RouteInv m db) (hsafe : CreateRouteSafe m db e)
    (hsub : ∀ k, (db'.routes.lookup k).isSome →
      (db.routes.lookup k).isSome ∨ k = mappingRouteKey m e) : RouteInv m db' := by
  obtain ⟨hacc, hsafe⟩ := hsafe
  constructor
  · intro k hk
    rcases hsub k hk with hold | rfl
    · exact h.entry k hold
    · exact ⟨e, hacc, rfl⟩
  · intro a b ha hb hla hlb hdiff
    obtain ⟨ht, hk⟩ := (differ_iff ha hb).mp hdiff
    rcases hsub _ hla with hla | hea
    · rcases hsub _ hlb with hlb | heb
      · exact h.distinct a b ha hb hla hlb hdiff
      · -- the new entry is `b`'s: `a` is live and differs from it
        refine hsafe a ha hla ((differ_iff (m := m) hacc ha).mpr ⟨?_, ?_⟩)
        · rw [ht]
          exact (routeTableKey_of_key hb hacc heb).symm
        · rw [← heb]
          exact Ne.symm hk
    rcases hsub _ hlb with hlb | heb
    · refine hsafe b hb hlb ((differ_iff (m := m) hacc hb).mpr ⟨?_, ?_⟩)
      · rw [← ht]
        exact (routeTableKey_of_key ha hacc hea).symm
      · rw [← hea]
        exact hk
    · exact hk (hea.trans heb.symm)

theorem RouteInv.create (h : RouteInv m db) {attrs : List RouteAttr}
    (hsafe : CreateRouteSafe m db e) : RouteInv m (createRoute m sdk db e attrs).2 :=
  h.add hsafe (fun _ hk => createRoute_live hk)

theorem RouteInv.remove (h : RouteInv m db) (sdk : RouteSdk) (e : RouteEntry) :
    RouteInv m (removeRoute m sdk db e).2 := by
  refine h.mono ?_
  intro k hk
  cases removeRoute_removed m sdk db e with
  | kept hr _ => rwa [hr] at hk
  | cut _ hr _ => rwa [hr] at hk
  | gone _ hr _ =>
    rw [hr, lookup_erase_ite] at hk
    split at hk
    · cases hk
    · exact hk

theorem RouteInv.set (h : RouteInv m db) (sdk : RouteSdk) (e : RouteEntry) (attr : RouteAttr) :
    RouteInv m (setRouteAttr m sdk db e attr).2 :=
  h.mono (fun _ hk => setRouteAttr_live hk)

theorem routeStep_inv (h : RouteInv m db) {op : RouteOp} (hsafe : RouteSafe m db op)
    (hst : routeStep m db op = some db') : RouteInv m db' := by
  cases op with
  | create sdk e attrs => cases hst; exact h.create hsafe
  | remove sdk e => cases hst; exact h.remove sdk e
  | set sdk e attr => cases hst; exact h.set sdk e attr
  | bulkCreate mode objects =>
    obtain ⟨r, hr, rfl⟩ := Option.map_eq_some_iff.mp hst
    refine bulkLoop_inv ?_ h hsafe hr
    intro s o status b s' hs hok hf
    cases hf
    exact hs.create hok
  | bulkRemove mode objects =>
    obtain ⟨r, hr, rfl⟩ := Option.map_eq_some_iff.mp hst
    refine bulkLoop_inv ?_ h (bulkAdmitted_true _ _) hr
    intro s o status b s' hs _ hf
    cases hf
    exact hs.remove o.1 o.2
  | bulkSet mode objects =>
    obtain ⟨r, hr, rfl⟩ := Option.map_eq_some_iff.mp hst
    refine bulkLoop_inv ?_ h (bulkAdmitted_true _ _) hr
    intro s o status b s' hs _ hf
    cases hf
    exact hs.set o.1 o.2.1 o.2.2
  | createCounter sdk type => cases hst; exact h.mono (fun _ hk => hk)
  | removeCounter oid => cases hst; exact h.mono (fun _ hk => hk)

/-- Where no two records differ in host bits only, each has its own route. -/
theorem RouteInv.routesApart (h : RouteInv m db) : RoutesApart m db := by
  constructor
  · exact h.entry
  · intro e e' ha ha' hl hl' ht
    by_contra hk
    exact h.distinct e e' ha ha' hl hl' ((differ_iff ha ha').mpr ⟨ht, hk⟩)
  · intro sdk e e' ha ha' hl' hk
    -- a removal that reaches the hardware finds a record of its own
    have happart : db.Live m e → routeTableKey m e' ≠ routeTableKey m e := by
      intro hl ht
      exact h.distinct e e' ha ha' hl hl' ((differ_iff ha ha').mpr ⟨ht.symm, hk⟩)
    cases removeRoute_removed m sdk db e with
    | kept hr hi => rw [hr, hi]; exact ⟨rfl, rfl⟩
    | cut hl hr hi =>
      rw [hr, hi, lookup_erase_ite, if_neg (happart hl)]
      exact ⟨rfl, rfl⟩
    | gone hl hr hi =>
      rw [hr, hi, lookup_erase_ite, lookup_erase_ite, if_neg (Ne.symm hk), if_neg (happart hl)]
      exact ⟨rfl, rfl⟩

/-- The two keys agree exactly on the pairs that do not differ in host bits
only, and a run that creates no such pair keeps its routes apart. -/
theorem routeKeys_of_run (m : MaskToLen) : (∀ e e' : RouteEntry, e.Accepted → e'.Accepted →
      ((mappingRouteKey m e = mappingRouteKey m e' ↔
          (mappingIpucKey m e).tableKey = (mappingIpucKey m e').tableKey) ↔
        ¬ DifferInHostBitsOnly e e')) ∧
      ∀ {ch : Chip} {db : RouteDb ch},
        Reachable RouteStart (RouteSafe m) (routeStep m) db → RoutesApart m db := by
  constructor
  · intro e e' h h'
    exact keys_agree_iff h h'
  · intro ch db h
    have hinv : RouteInv m db :=
      h.inv (I := RouteInv m) (fun _ hs => .start hs) (fun _ _ _ hi hok hst =>
        routeStep_inv hi hok hst)
    exact hinv.routesApart

/-! ## Two runs -/

def countOnes (w : BitVec 32) : Nat := (List.range 32).countP (fun i => w.getLsbD i)

theorem countOnes_maskWord (len : Nat) : countOnes (maskWord len) = min len 32 := by
  by_cases h : len < 32
  · revert len
    decide
  · have h0 : 32 - len = 0 := by omega
    rw [maskWord, h0, Nat.min_eq_right (by omega)]
    decide

/-- A length that counts the ones of a mask. -/
def MaskToLen.ones : MaskToLen where
  v4 w := BitVec.ofNat 8 (countOnes w)
  v6 a := BitVec.ofNat 8 (countOnes a.w0 + countOnes a.w1 + countOnes a.w2 + countOnes a.w3)
  v4_maskWord len h := by
    rw [countOnes_maskWord, Nat.min_eq_left h]
  v6_maskV6 len h := by
    have hsum : min len 32 + min (len - 32) 32 + min (len - 64) 32 + min (len - 96) 32 = len := by
      omega
    simp only [maskV6, countOnes_maskWord, hsum]

/-- A /24 route of virtual router 1, by the bytes of its address. -/
def route24 (addr : BitVec 32) : RouteEntry where
  switchId := createObjectId .switch 0 0 0 0
  vrId := createObjectId .virtualRouter 0 0 0 1
  destination := ⟨.ipv4, { IpWords.zero with w0 := ntohl addr },
    { IpWords.zero with w0 := ntohl (maskWord 24) }⟩

theorem route24_accepted (addr : BitVec 32) : (route24 addr).Accepted := by
  refine ⟨rfl, 24, Nat.le_of_ble_eq_true rfl, ?_⟩
  show ntohV6 { IpWords.zero with w0 := ntohl (maskWord 24) } = maskV6 24
  decide

def dropRoute : List RouteAttr := [.packetAction .drop]

/-- No route, and the SDK's table empty. -/
def RouteDb.empty (ch : Chip) : RouteDb ch := ⟨∅, ∅, fun _ => 0, .empty ch⟩

/-- 10.0.0.0/24 and 10.0.1.0/24 stand side by side. -/
theorem routeKeys_of_run_two : ¬ DifferInHostBitsOnly (route24 0x0a000000) (route24 0x0a000100) ∧
    ∃ db : RouteDb .small, RoutesApart .ones db ∧
      db.Live .ones (route24 0x0a000000) ∧ db.Live .ones (route24 0x0a000100) := by
  have hne : routeTableKey .ones (route24 0x0a000100) ≠ routeTableKey .ones (route24 0x0a000000) := by
    decide
  have r₀ : Reachable RouteStart (RouteSafe .ones) (routeStep .ones) (RouteDb.empty .small) :=
    .start rfl
  have r₁ := r₀.next (.create .ok (route24 0x0a000000) dropRoute) (by
    refine ⟨route24_accepted _, ?_⟩
    intro e' _ hl
    cases hl) rfl
  have r₂ := r₁.next (.create .ok (route24 0x0a000100) dropRoute) (by
    refine ⟨route24_accepted _, ?_⟩
    intro e' ha hl hdiff
    have ht := ((differ_iff (m := .ones) (route24_accepted _) ha).mp hdiff).1
    -- the one live record is that of 10.0.0.0/24
    rcases createRoute_live hl with hl | hk
    · cases hl
    · exact hne (ht.trans (routeTableKey_of_key ha (route24_accepted _) hk))) rfl
  refine ⟨?_, _, (routeKeys_of_run .ones).2 r₂, by decide, by decide⟩
  apply ((routeKeys_of_run .ones).1 _ _ (route24_accepted _) (route24_accepted _)).mp
  decide

/-- 10.0.0.1/24 and 10.0.0.2/24 are two records over one hardware route, and
removing the first leaves the second without it. -/
theorem routeKeys_not_always : (¬ ∀ e e' : RouteEntry, e.Accepted → e'.Accepted →
      (mappingRouteKey .ones e = mappingRouteKey .ones e' ↔
        (mappingIpucKey .ones e).tableKey = (mappingIpucKey .ones e').tableKey)) ∧
    ¬ ∀ db : RouteDb .small, Reachable RouteStart anyStep (routeStep .ones) db →
      RoutesApart .ones db := by
  constructor
  · intro h
    have hk := h (route24 0x0a000001) (route24 0x0a000002) (route24_accepted _) (route24_accepted _)
    revert hk
    decide
  · intro h
    have r₀ : Reachable RouteStart anyStep (routeStep .ones) (RouteDb.empty .small) := .start rfl
    have r₁ := r₀.next (.create .ok (route24 0x0a000001) dropRoute) trivial rfl
    have r₂ := r₁.next (.create .ok (route24 0x0a000002) dropRoute) trivial rfl
    have hrem := ((h _ r₂).removed .ok _ _ (route24_accepted 0x0a000001)
      (route24_accepted 0x0a000002) (by decide) (by decide)).2
    revert hrem
    decide

end CtcSai
