import Workflow.Proofs.Storage.Keys
import Workflow.Proofs.Storage.Transcript
import Workflow.Proofs.Url.Authority

/-!
# Stores apart

An object is found by the scheme and the host of its URI, and by its key. So two objects are apart
when one of these differs, and a port makes no difference.

* `RemoteLocation.store_inj`: two stores are one if scheme and host are the same.
* `Storage.Reaches`: a store is at hand. `outcome_getBytes`: what reading an object gives.
* `perform_reaches`, `run_reaches`: only a registration brings a store.
* `puts_iff`: so what a call puts depends on the stores at hand alone.
* `AgreeBut`: two storages that differ at one site. `AgreeBut.perform`, `AgreeBut.run`: no call and no
  run makes them differ at more.
* `unseen_iff`: what is put to one object is read from this object alone.
* `authorities_apart_iff`: hence authorities are apart, unless they differ by their ports alone.
-/

namespace Workflow

namespace RemoteLocation

variable {u v : String} {l l' : RemoteLocation}

theorem of_parse? (h : parse? u = some l) : Url.parse? u = some l.url ∧ l.url.scheme ≠ "file" ∧
    l.store = l.url.scheme ++ "://" ++ l.url.host.getD "" := by
  obtain ⟨hurl, hscheme, hstore, -⟩ := parse?_eq_some_iff.1 h
  exact ⟨hurl, hscheme.1, hstore⟩

/-- The first colon of the name of a store ends its scheme. -/
theorem takeWhile_store {scheme host : String} (h : ':' ∉ scheme.toList) :
    (scheme ++ "://" ++ host).toList.takeWhile (· != ':') = scheme.toList := by
  rw [String.append_assoc, String.toList_append, List.takeWhile_append_of_pos, String.toList_append]
  · exact List.append_nil _
  · intro c hc
    rw [bne_iff_ne]
    rintro rfl
    exact h hc

/-- **Stores are told apart** by scheme and host. -/
theorem store_inj (h : parse? u = some l) (h' : parse? v = some l') :
    l.store = l'.store ↔ l.url.scheme = l'.url.scheme ∧ l.url.host = l'.url.host := by
  obtain ⟨hurl, hfile, hstore⟩ := of_parse? h
  obtain ⟨hurl', hfile', hstore'⟩ := of_parse? h'
  rw [hstore, hstore']
  constructor
  · intro heq
    have hscheme : l.url.scheme = l'.url.scheme := by
      have htake := congrArg (·.toList.takeWhile (· != ':')) heq
      simp only [takeWhile_store (Url.colon_notMem_scheme hurl),
        takeWhile_store (Url.colon_notMem_scheme hurl')] at htake
      exact String.toList_inj.1 htake
    have hhost : l.url.host.getD "" = l'.url.host.getD "" := by
      rw [hscheme] at heq
      exact String.append_right_inj _ |>.1 heq
    refine ⟨hscheme, ?_⟩
    -- no host is empty, so an empty one is none
    have hne := Url.host_ne_empty hurl hfile
    have hne' := Url.host_ne_empty hurl' hfile'
    cases hl : l.url.host with
    | none =>
      cases hl' : l'.url.host with
      | none => rfl
      | some host' =>
        rw [hl, hl'] at hhost
        exact absurd (hl'.trans (congrArg some hhost.symm)) hne'
    | some host =>
      cases hl' : l'.url.host with
      | none =>
        rw [hl, hl'] at hhost
        exact absurd (hl.trans (congrArg some hhost)) hne
      | some host' =>
        rw [hl, hl'] at hhost
        exact congrArg some hhost
  · rintro ⟨hscheme, hhost⟩
    rw [hscheme, hhost]

end RemoteLocation

namespace Storage

open Calls

variable {s t : Storage} {u v uri store key : String} {l lu lv : RemoteLocation} {site : Site}
  {content : Bytes} {headers : UploadHeaders}

/-! ## Stores at hand -/

/-- A store is registered, or opened on first use. -/
def Reaches (s : Storage) (l : RemoteLocation) : Prop :=
  (s.stores.routes.lookup l.store).isSome ∨ l.url.scheme = "memory" ∧ l.url.host = none

instance (s : Storage) (l : RemoteLocation) : Decidable (s.Reaches l) :=
  inferInstanceAs (Decidable (_ ∨ _))

theorem bucketOf_reaches (l : RemoteLocation) :
    (∃ bucket, (outcome (bucketOf l) s).1 = .ok bucket) ↔ s.Reaches l := by
  rw [outcome_bucketOf]
  unfold Reaches
  cases s.stores.routes.lookup l.store with
  | some bucket => simp
  | none =>
    simp only [Option.isSome_none, Bool.false_eq_true, false_or]
    split
    · rename_i hopens
      exact iff_of_true ⟨_, rfl⟩ hopens
    · rename_i hopens
      exact iff_of_false nofun hopens

/-- **What reading an object gives**: its content, or that there is none in its store, or that there
is no store. -/
theorem outcome_getBytes (hparse : RemoteLocation.parse? uri = some l) :
    (outcome (getBytes uri) s).1 =
      match s.contentAt? (.object l.store l.key) with
      | some content => .ok content
      | none => if s.Reaches l then .error (.notFound l.key) else .error .backend := by
  cases hcontent : s.contentAt? (.object l.store l.key) with
  | some content =>
    exact getBytes_eq_ok.2 ⟨_, siteOf?_eq_object.2 ⟨l, hparse, rfl, rfl⟩, hcontent⟩
  | none =>
    cases hroute : s.stores.routes.lookup l.store with
    | some bucket =>
      have hreaches : s.Reaches l := .inl (by rw [hroute]; rfl)
      simp only [if_pos hreaches]
      exact getBytes_notFound hparse (by rw [hroute]; rfl) hcontent
    | none =>
      rw [getBytes, if_pos (isRemote_of_parse? hparse), getRemote, outcome_modify_bind, outcome_bind,
        outcome_locate, hparse]
      simp only
      rw [outcome_bind, outcome_bucketOf]
      simp only [hroute, Reaches, Option.isSome_none, Bool.false_eq_true, false_or]
      by_cases hopens : l.url.scheme = "memory" ∧ l.url.host = none
      · -- the store is opened by the call and has no objects yet
        simp [if_pos hopens, Stores.openStore, Stores.object?]
      · simp only [if_neg hopens]

/-- The same stores are at hand for objects. -/
def SameReach (s t : Storage) : Prop :=
  ∀ uri l, RemoteLocation.parse? uri = some l → (t.Reaches l ↔ s.Reaches l)

theorem SameReach.refl (s : Storage) : s.SameReach s := fun _ _ _ => Iff.rfl

theorem SameReach.trans {r : Storage} (h : r.SameReach s) (h' : s.SameReach t) : r.SameReach t :=
  fun uri l hparse => (h' uri l hparse).trans (h uri l hparse)

theorem sameReach_of_routes (h : t.stores.routes = s.stores.routes) : s.SameReach t := by
  intro uri l _
  rw [Reaches, Reaches, h]

/-- A store that is opened on first use is at hand before. -/
theorem bucketOf_sameReach (hparse : RemoteLocation.parse? uri = some l) :
    Within SameReach (bucketOf l) := by
  intro s
  rw [outcome_bucketOf]
  split
  · exact .refl s
  split
  · rename_i hopens
    intro uri' l' hparse'
    simp only [Reaches, Stores.lookup_openStore]
    by_cases hstore : l'.store = l.store
    · obtain ⟨hscheme, hhost⟩ := (RemoteLocation.store_inj hparse' hparse).1 hstore
      rw [hscheme, hhost]
      exact iff_of_true (.inr hopens) (.inr hopens)
    · rw [if_neg hstore]
  · exact .refl s

theorem getBytes_sameReach (uri : String) : Within SameReach (getBytes uri) :=
  getBytes_within_of .refl .trans (fun _ => sameReach_of_routes rfl) fun _ => bucketOf_sameReach

theorem putBytes_sameReach (uri : String) (content : Bytes) (headers : UploadHeaders) :
    Within SameReach (putBytes uri content headers) :=
  putBytes_within_of .refl .trans
    (putRemote_within_of .refl .trans (fun _ => sameReach_of_routes rfl)
      (fun _ => bucketOf_sameReach) fun _ _ _ _ => sameReach_of_routes rfl)
    (putLocal_within_of .refl .trans fun _ _ => sameReach_of_routes rfl)

/-- **Only a registration brings a store.** -/
theorem perform_reaches (call : Call) (hparse : RemoteLocation.parse? uri = some l) :
    (outcome call.perform s).2.Reaches l ↔ s.Reaches l ∨
      ∃ base b, call = .register base ∧ RemoteLocation.parse? base = some b ∧ b.store = l.store := by
  cases call with
  | register base =>
    rw [Call.perform, outcome_bind, outcome_registerStore]
    cases hbase : RemoteLocation.parse? base with
    | none => simp [hbase]
    | some b =>
      simp only [outcome_pure, Reaches, Stores.lookup_openStore, Call.register.injEq,
        exists_and_left, exists_eq_left', hbase, Option.some.injEq]
      by_cases hstore : l.store = b.store
      · simp [hstore]
      · simp [hstore, Ne.symm hstore]
  | put other content headers =>
    rw [or_iff_left (by rintro ⟨_, _, ⟨⟩, -⟩)]
    exact Within.bind .trans (putBytes_sameReach other content headers)
      (fun _ => .pure .refl none) s uri l hparse
  | get other =>
    rw [or_iff_left (by rintro ⟨_, _, ⟨⟩, -⟩)]
    exact Within.bind .trans (getBytes_sameReach other) (fun _ => .pure .refl _) s uri l hparse

/-- **After a run** the stores are at hand that were so before, and those that it registers. -/
theorem run_reaches (calls : List Call) (hparse : RemoteLocation.parse? uri = some l) :
    (s.run calls).2.Reaches l ↔ s.Reaches l ∨
      ∃ base b, .register base ∈ calls ∧ RemoteLocation.parse? base = some b ∧
        b.store = l.store := by
  induction calls generalizing s with
  | nil => simp [run]
  | cons call calls ih =>
    rw [run_cons, ih, perform_reaches call hparse, or_assoc]
    refine or_congr_right ⟨?_, ?_⟩
    · rintro (⟨base, b, rfl, hb⟩ | ⟨base, b, hmem, hb⟩)
      · exact ⟨base, b, List.mem_cons_self, hb⟩
      · exact ⟨base, b, List.mem_cons_of_mem _ hmem, hb⟩
    · rintro ⟨base, b, hmem, hb⟩
      rcases List.mem_cons.1 hmem with rfl | hmem
      · exact .inl ⟨base, b, rfl, hb⟩
      · exact .inr ⟨base, b, hmem, hb⟩

/-- An upload to an object succeeds if its store is at hand. -/
theorem put_succeeds (hparse : RemoteLocation.parse? uri = some l) :
    (∃ answer, (outcome (Call.perform (.put uri content headers)) s).1 = .ok answer) ↔
      s.Reaches l := by
  let counted : Storage := { s with traffic := { s.traffic with puts := s.traffic.puts + 1 } }
  have hbucket : (∃ bucket, (outcome (bucketOf l) counted).1 = .ok bucket) ↔ s.Reaches l :=
    bucketOf_reaches l
  rw [← hbucket, Call.perform, outcome_bind, putBytes, if_pos (isRemote_of_parse? hparse),
    outcome_bind, putRemote, outcome_modify_bind, outcome_bind, outcome_locate, hparse]
  simp only
  rw [outcome_bind]
  rcases outcome (bucketOf l) counted with ⟨e | bucket, t⟩
  · simp
  · simp

/-! ## Two storages -/

/-- Two storages with the same stores at hand and the same objects, one site aside. -/
structure AgreeBut (site : Site) (s t : Storage) : Prop where
  left : s.stores.Sound
  right : t.stores.Sound
  reaches : s.SameReach t
  content : ∀ store key, .object store key ≠ site →
    t.contentAt? (.object store key) = s.contentAt? (.object store key)

theorem registers_iff (call : Call) : Record.Registers ⟨call, (outcome call.perform s).1⟩ store ↔
    ∃ base l, call = .register base ∧ RemoteLocation.parse? base = some l ∧ l.store = store := by
  constructor
  · rintro ⟨base, l, rfl, -, hparse, hstore⟩
    exact ⟨base, l, rfl, hparse, hstore⟩
  · rintro ⟨base, l, rfl, hparse, hstore⟩
    refine ⟨base, l, rfl, ⟨none, ?_⟩, hparse, hstore⟩
    simp only [Call.perform]
    rw [outcome_bind, outcome_registerStore, hparse]
    rfl

/-- What a call puts depends on the stores at hand alone. -/
theorem puts_iff (call : Call) :
    Record.Puts ⟨call, (outcome call.perform s).1⟩ store key content ↔
      ∃ uri headers l, call = .put uri content headers ∧ RemoteLocation.parse? uri = some l ∧
        s.Reaches l ∧ l.store = store ∧ l.key = key := by
  constructor
  · rintro ⟨uri, headers, l, rfl, hok, hparse, hsite⟩
    exact ⟨uri, headers, l, rfl, hparse, (put_succeeds hparse).1 hok, hsite⟩
  · rintro ⟨uri, headers, l, rfl, hparse, hreaches, hsite⟩
    exact ⟨uri, headers, l, rfl, (put_succeeds hparse).2 hreaches, hparse, hsite⟩

/-- **A call makes no more difference** between two storages than there was. -/
theorem AgreeBut.perform (h : AgreeBut site s t) (call : Call) :
    AgreeBut site (outcome call.perform s).2 (outcome call.perform t).2 where
  left := (step_perform h.left call).sound
  right := (step_perform h.right call).sound
  reaches := fun uri l hparse => by
    rw [perform_reaches call hparse, perform_reaches call hparse, h.reaches uri l hparse]
  content := fun store key hsite => by
    -- it registers the same store in both, and puts the same content into the stores at hand
    have hputs : ∀ content, Record.Puts ⟨call, (outcome call.perform t).1⟩ store key content ↔
        Record.Puts ⟨call, (outcome call.perform s).1⟩ store key content := by
      intro content
      rw [puts_iff, puts_iff]
      exact exists₃_congr fun uri headers l => and_congr_right fun _ => and_congr_right fun hparse =>
        and_congr_left' (h.reaches uri l hparse)
    have hspares : Record.Spares ⟨call, (outcome call.perform t).1⟩ store key ↔
        Record.Spares ⟨call, (outcome call.perform s).1⟩ store key := by
      simp only [Record.Spares, registers_iff, hputs]
    refine Option.ext fun content => ?_
    rw [(step_perform h.left call).object, (step_perform h.right call).object, hputs, hspares,
      h.content store key hsite]

/-- Nor does a run. -/
theorem AgreeBut.run (h : AgreeBut site s t) (calls : List Call) :
    AgreeBut site (s.run calls).2 (t.run calls).2 := by
  induction calls generalizing s t with
  | nil => exact h
  | cons call calls ih => exact ih (h.perform call)

/-- An upload to an object makes no difference elsewhere. -/
theorem agreeBut_put (hs : s.stores.Sound) (hparse : RemoteLocation.parse? uri = some l) :
    AgreeBut (.object l.store l.key) s (outcome (Call.perform (.put uri content headers)) s).2 where
  left := hs
  right := (step_perform hs _).sound
  reaches := fun uri' l' hparse' => by
    rw [perform_reaches _ hparse', or_iff_left (by rintro ⟨_, _, ⟨⟩, -⟩)]
  content := fun store key hsite => by
    refine Option.ext fun found => ?_
    have hputs : ∀ found, ¬ Record.Puts ⟨.put uri content headers,
        (outcome (Call.perform (.put uri content headers)) s).1⟩ store key found := by
      intro found hput
      obtain ⟨_, _, l', ⟨⟩, hparse', -, rfl, rfl⟩ := (puts_iff _).1 hput
      rw [hparse] at hparse'
      cases hparse'
      exact hsite rfl
    have hregisters : ¬ Record.Registers ⟨.put uri content headers,
        (outcome (Call.perform (.put uri content headers)) s).1⟩ store := by
      rintro ⟨_, _, ⟨⟩, -⟩
    rw [(step_perform hs _).object, or_iff_right (hputs found),
      and_iff_right ⟨hregisters, hputs⟩]

/-- What two such storages give for another object is the same. -/
theorem AgreeBut.getBytes (h : AgreeBut site s t) (hparse : RemoteLocation.parse? uri = some l)
    (hsite : .object l.store l.key ≠ site) :
    (outcome (getBytes uri) t).1 = (outcome (getBytes uri) s).1 := by
  rw [outcome_getBytes hparse, outcome_getBytes hparse, h.content _ _ hsite]
  simp only [h.reaches uri l hparse]

/-! ## Reading what was put -/

theorem run_append (s : Storage) (before after : List Call) :
    (s.run (before ++ after)).2 = ((s.run before).2.run after).2 := by
  induction before generalizing s with
  | nil => rfl
  | cons call before ih => exact ih _

/-- Storage as it is set up. -/
def Fresh (s : Storage) : Prop :=
  ∃ config files supply, ofConfig config files supply = .ok s

/-- What is put to one URI makes no difference to what another gives, whatever is called before and
between. -/
def Unseen (u v : String) : Prop :=
  ∀ s : Storage, s.Fresh → ∀ before after content headers,
    (outcome (getBytes v) (s.run (before ++ .put u content headers :: after)).2).1 =
      (outcome (getBytes v) (s.run (before ++ after)).2).1

theorem Fresh.sound (h : s.Fresh) : s.stores.Sound := by
  obtain ⟨config, files, supply, hstart⟩ := h
  rw [stores_ofConfig hstart]
  exact Stores.Sound.empty

/-- An upload to another object is not seen. -/
theorem unseen_of_ne (hu : RemoteLocation.parse? u = some lu) (hv : RemoteLocation.parse? v = some lv)
    (hne : ¬ (lu.store = lv.store ∧ lu.key = lv.key)) : Unseen u v := by
  intro s hs before after content headers
  have hbefore : (s.run before).2.stores.Sound := run_sound hs.sound
  rw [run_append, run_append, run_cons]
  -- the runs part at the upload, by its own site, and go on alike
  refine ((agreeBut_put hbefore hu).run after).getBytes hv fun heq => hne ?_
  obtain ⟨hstore, hkey⟩ := Site.object.inj heq
  exact ⟨hstore.symm, hkey.symm⟩

/-- What is put to an object is read from it, if its store is at hand. -/
theorem getBytes_put (hs : s.stores.Sound) (hreaches : s.Reaches lu)
    (hu : RemoteLocation.parse? u = some lu) (hv : RemoteLocation.parse? v = some lv)
    (hstore : lu.store = lv.store) (hkey : lu.key = lv.key) :
    (outcome (getBytes v) (outcome (Call.perform (.put u content headers)) s).2).1 =
      .ok content := by
  have hput : Record.Puts ⟨.put u content headers,
      (outcome (Call.perform (.put u content headers)) s).1⟩ lv.store lv.key content :=
    (puts_iff _).2 ⟨u, headers, lu, rfl, hu, hreaches, hstore, hkey⟩
  rw [outcome_getBytes hv, ((step_perform hs _).object _ _ _).2 (.inl hput)]

theorem exists_fresh : ∃ s : Storage, s.Fresh :=
  ⟨_, {}, .ofDirectories [] (.ofText "/in"), FreshId.ofNumbers 0, rfl⟩

theorem Fresh.contentAt? (h : s.Fresh) (store key : String) :
    s.contentAt? (.object store key) = none := by
  obtain ⟨config, files, supply, hstart⟩ := h
  rw [Storage.contentAt?, stores_ofConfig hstart]
  rfl

/-- Registrations bring no content. -/
theorem contentAt?_registered (hs : s.stores.Sound) {bases : List String}
    (hnone : s.contentAt? (.object store key) = none) :
    (s.run (bases.map .register)).2.contentAt? (.object store key) = none := by
  induction bases generalizing s with
  | nil => exact hnone
  | cons base bases ih =>
    refine ih (step_register hs base).sound (Option.eq_none_iff_forall_ne_some.2 fun content hc => ?_)
    rcases ((step_register hs base).object _ _ _).1 hc with ⟨_, _, _, ⟨⟩, -⟩ | ⟨-, hc⟩
    rw [hnone] at hc
    cases hc

/-- **Two URIs of one object**: once its store is registered, reading the one finds nothing at
first, and then what was put to the other. -/
theorem shows_of_eq (hs : s.Fresh) (hu : RemoteLocation.parse? u = some lu)
    (hv : RemoteLocation.parse? v = some lv) (hstore : lu.store = lv.store) (hkey : lu.key = lv.key)
    (content : Bytes) (headers : UploadHeaders) {bases : List String}
    (hbase : ∃ base ∈ bases, ∃ b, RemoteLocation.parse? base = some b ∧ b.store = lv.store) :
    (outcome (getBytes v) (s.run (bases.map .register)).2).1 = .error (.notFound lv.key) ∧
      (outcome (getBytes v) (s.run (bases.map .register ++ [.put u content headers])).2).1 =
        .ok content := by
  obtain ⟨base, hmem, b, hb, hbstore⟩ := hbase
  have hcall : Call.register base ∈ bases.map .register := List.mem_map_of_mem hmem
  have hreaches : ∀ {uri l}, RemoteLocation.parse? uri = some l → l.store = lv.store →
      (s.run (bases.map .register)).2.Reaches l := fun hparse hl =>
    (run_reaches _ hparse).2 (.inr ⟨base, b, hcall, hb, hbstore.trans hl.symm⟩)
  constructor
  · rw [outcome_getBytes hv, contentAt?_registered hs.sound (hs.contentAt? _ _)]
    exact if_pos (hreaches hv rfl)
  · rw [run_append]
    exact getBytes_put (run_sound hs.sound) (hreaches hu hstore) hu hv hstore hkey

/-- **What is put to one object is read from this object alone.** -/
theorem unseen_iff (hu : RemoteLocation.parse? u = some lu)
    (hv : RemoteLocation.parse? v = some lv) :
    Unseen u v ↔ ¬ (lu.store = lv.store ∧ lu.key = lv.key) := by
  refine ⟨?_, unseen_of_ne hu hv⟩
  rintro hunseen ⟨hstore, hkey⟩
  obtain ⟨s, hs⟩ := exists_fresh
  obtain ⟨hbefore, hafter⟩ := shows_of_eq hs hu hv hstore hkey [] {}
    ⟨u, List.mem_singleton_self u, lu, hu, hstore⟩
  have hsame := hunseen s hs ([u].map .register) [] [] {}
  rw [List.append_nil, hbefore, hafter] at hsame
  cases hsame

/-! ## Authorities -/

/-- Two URIs of one host under two ports. -/
structure PortsDiffer (u v : String) (lu lv : RemoteLocation) : Prop where
  scheme : lu.url.scheme = lv.url.scheme
  host : ∃ host, lu.url.host = some host ∧ lv.url.host = some host
  port : Url.port? u ≠ Url.port? v

theorem authority?_eq (hparse : RemoteLocation.parse? uri = some l) :
    Url.authority? uri = some ⟨l.url.scheme, l.url.host, Url.port? uri⟩ := by
  rw [Url.authority?, (RemoteLocation.of_parse? hparse).1]
  rfl

theorem authority?_eq_iff (hu : RemoteLocation.parse? u = some lu)
    (hv : RemoteLocation.parse? v = some lv) : Url.authority? u = Url.authority? v ↔
      lu.store = lv.store ∧ Url.port? u = Url.port? v := by
  rw [authority?_eq hu, authority?_eq hv, RemoteLocation.store_inj hu hv, Option.some.injEq,
    Url.Authority.mk.injEq, and_assoc]

theorem portsDiffer_iff (hu : RemoteLocation.parse? u = some lu)
    (hv : RemoteLocation.parse? v = some lv) : PortsDiffer u v lu lv ↔
      lu.store = lv.store ∧ Url.authority? u ≠ Url.authority? v := by
  rw [ne_eq, authority?_eq_iff hu hv, RemoteLocation.store_inj hu hv]
  constructor
  · rintro ⟨hscheme, ⟨host, hhost, hhost'⟩, hport⟩
    exact ⟨⟨hscheme, hhost.trans hhost'.symm⟩, fun h => hport h.2⟩
  · rintro ⟨hsame, hne⟩
    have hport : Url.port? u ≠ Url.port? v := fun h => hne ⟨hsame, h⟩
    cases hhost : lu.url.host with
    | some host => exact ⟨hsame.1, ⟨host, hhost, hsame.2.symm.trans hhost⟩, hport⟩
    | none =>
      -- without a host there is no port that could differ
      have hnone := Url.port?_of_host (RemoteLocation.of_parse? hu).1 hhost
      have hnone' := Url.port?_of_host (RemoteLocation.of_parse? hv).1 (hsame.2.symm.trans hhost)
      exact absurd (hnone.trans hnone'.symm) hport

/-- **Authorities are kept apart**, unless they differ by their ports alone: then two URIs with one
key lead to one object, and what is put under the one port shows under the other. -/
theorem authorities_apart_iff (hu : RemoteLocation.parse? u = some lu)
    (hv : RemoteLocation.parse? v = some lv) :
    ((lu.store = lv.store → Url.authority? u = Url.authority? v) ↔ ¬ PortsDiffer u v lu lv) ∧
      ((Url.authority? u ≠ Url.authority? v → Unseen u v) ↔
        ¬ (PortsDiffer u v lu lv ∧ lu.key = lv.key)) ∧
      (PortsDiffer u v lu lv → lu.key = lv.key → ∀ s : Storage, s.Fresh →
        ∀ (bases : List String) (base : String) (b : RemoteLocation), base ∈ bases →
        RemoteLocation.parse? base = some b → Url.authority? base = Url.authority? v →
        ∀ content headers,
          (outcome (getBytes v) (s.run (bases.map .register)).2).1 = .error (.notFound lv.key) ∧
          (outcome (getBytes v) (s.run (bases.map .register ++ [.put u content headers])).2).1 =
            .ok content) := by
  have hdiffer := portsDiffer_iff hu hv
  refine ⟨?_, ?_, ?_⟩
  · rw [hdiffer, ne_eq, not_and_not_right]
  · rw [unseen_iff hu hv, hdiffer]
    constructor
    · rintro hunseen ⟨⟨hstore, hne⟩, hkey⟩
      exact hunseen hne ⟨hstore, hkey⟩
    · rintro hapart hne ⟨hstore, hkey⟩
      exact hapart ⟨⟨hstore, hne⟩, hkey⟩
  · intro hports hkey s hs bases base b hmem hb hauthority content headers
    have hstore : b.store = lv.store := ((authority?_eq_iff hb hv).1 hauthority).1
    exact shows_of_eq hs hu hv (hdiffer.1 hports).1 hkey content headers ⟨base, hmem, b, hb, hstore⟩

/-- What is put to a host is not seen on another host with the same port. -/
theorem authorities_apart_hosts : ∃ lu lv,
    RemoteLocation.parse? "s3://user@data:9000/a%20b" = some lu ∧
      RemoteLocation.parse? "s3://date:9000/x/../a b" = some lv ∧ lu.key = lv.key ∧
      Unseen "s3://user@data:9000/a%20b" "s3://date:9000/x/../a b" := by
  obtain ⟨lu, hu⟩ : ∃ lu, RemoteLocation.parse? "s3://user@data:9000/a%20b" = some lu :=
    Option.isSome_iff_exists.1 (by decide +kernel)
  obtain ⟨lv, hv⟩ : ∃ lv, RemoteLocation.parse? "s3://date:9000/x/../a b" = some lv :=
    Option.isSome_iff_exists.1 (by decide +kernel)
  have hkey : (RemoteLocation.parse? "s3://user@data:9000/a%20b").map (·.key) =
      (RemoteLocation.parse? "s3://date:9000/x/../a b").map (·.key) := by decide +kernel
  rw [hu, hv] at hkey
  have hport : Url.port? "s3://user@data:9000/a%20b" = Url.port? "s3://date:9000/x/../a b" := by
    decide +kernel
  have hauthority : Url.authority? "s3://user@data:9000/a%20b" ≠
      Url.authority? "s3://date:9000/x/../a b" := by decide +kernel
  obtain ⟨-, hunseen, -⟩ := authorities_apart_iff hu hv
  exact ⟨lu, lv, hu, hv, Option.some.inj hkey,
    hunseen.2 (fun h => h.1.port hport) hauthority⟩

/-- Two ports of one host have one store, and what is put under the one shows under the other. -/
theorem not_apart_ports : ∃ s : Storage, s.Fresh ∧
    (RemoteLocation.parse? "s3://data:9000/k").map (·.store) =
      (RemoteLocation.parse? "s3://data:9001/k").map (·.store) ∧
    (RemoteLocation.parse? "s3://data:9001/k").isSome ∧
    Url.authority? "s3://data:9000/k" ≠ Url.authority? "s3://data:9001/k" ∧
    (outcome (getBytes "s3://data:9001/k")
      (s.run [.register "s3://data:9000", .register "s3://data:9001"]).2).1 =
        .error (.notFound "k") ∧
    (outcome (getBytes "s3://data:9001/k") (s.run [.register "s3://data:9000",
      .register "s3://data:9001", .put "s3://data:9000/k" [0x78] {}]).2).1 = .ok [0x78] := by
  refine ⟨⟨{}, .ofDirectories [] (.ofText "/in"), .empty, {}, FreshId.ofNumbers 0, 0⟩,
    ⟨{}, .ofDirectories [] (.ofText "/in"), FreshId.ofNumbers 0, rfl⟩, ?_⟩
  decide +kernel

end Storage

end Workflow
