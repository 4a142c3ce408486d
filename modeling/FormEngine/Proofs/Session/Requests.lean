import FormEngine.Proofs.Choices.Pending
import FormEngine.Proofs.Session.Patch
import FormEngine.Proofs.Session.Runs
import FormEngine.Proofs.Update.Selective

/-!
# Requests that a patch calls for

A patch calls for the request of a remote field when all the field depends on is filled in and one
of the fields it depends on is a key of the patch. Choices become stale in another way too: the
rules that a patch sets off may change what a field depends on. A field whose choices are stale and
that gets no request depends on no key of the patch, and on a field that the rules behind the keys
set (`requests_of_patch`).
-/

namespace FormEngine

open Value (sameOption)

/-- The choices of a remote field are stale after a step: a value that they depend on is another one
now. They can be loaded, since all they depend on is filled in. -/
def Snapshot.StaleChoices (s t : Snapshot) (f : Field) : Prop :=
  ∃ source, f.remote? = some source ∧ (∀ d ∈ source.dependsOn, t.isFilled d = true) ∧
    ∃ d ∈ source.dependsOn, sameOption (s.values.get? d) (t.values.get? d) = false

instance (s t : Snapshot) (f : Field) : Decidable (s.StaleChoices t f) :=
  decidable_of_iff (f.remote?.any fun source => source.dependsOn.all t.isFilled &&
      source.dependsOn.any fun d => !sameOption (s.values.get? d) (t.values.get? d)) (by
    simp [Snapshot.StaleChoices, Option.any_eq_true])

/-- All that the field depends on is filled in, and it depends on one of some keys. -/
def Snapshot.CalledBy (t : Snapshot) (keys : List String) (f : Field) : Prop :=
  ∃ source, f.remote? = some source ∧ (∀ d ∈ source.dependsOn, t.isFilled d = true) ∧
    ∃ d ∈ source.dependsOn, d ∈ keys

namespace Session

variable {s t : Session} {entries : List (String × Value)}

/-! ## What setting fields leaves alone -/

theorem SetAll.form_eq (h : SetAll s entries t) : t.snapshot.form = s.snapshot.form := by
  induction h with
  | nil s => rfl
  | cons h _ ih =>
    obtain ⟨next, hnext, rfl⟩ := set_eq_ok_iff.1 h
    exact ih.trans (Snapshot.form_update hnext)

theorem SetAll.get?_eq (h : SetAll s entries t) (hs : s.snapshot.form.Loaded) {key : String}
    (hkey : key ∉ Dict.keys entries)
    (hcone : ∀ field ∈ Dict.keys entries, ¬ s.snapshot.form.graph.ConeSets field key) :
    t.snapshot.values.get? key = s.snapshot.values.get? key := by
  induction h with
  | nil s => rfl
  | @cons s mid t entry rest h _ ih =>
    obtain ⟨next, hnext, rfl⟩ := set_eq_ok_iff.1 h
    have hform : next.form = s.snapshot.form := Snapshot.form_update hnext
    rw [Dict.keys, List.map_cons, List.mem_cons, not_or] at hkey
    have hfirst : next.values.get? key = s.snapshot.values.get? key :=
      Snapshot.get?_update_of_not_coneSets hs hnext hkey.1 fun _ =>
        hcone entry.1 List.mem_cons_self
    have hlater := ih (hform ▸ hs) hkey.2 fun field hfield => by
      rw [show ({ s with snapshot := next } : Session).snapshot.form = _ from hform]
      exact hcone field (List.mem_cons_of_mem _ hfield)
    exact hlater.trans hfirst

/-! ## Patches -/

/-- A patch has a request for a field exactly when one of its keys calls for it. -/
theorem Patched.exists_request_iff {text : String} {o : PatchOutcome} (h : s.Patched text o t)
    (hs : s.snapshot.form.Loaded) {f : Field} (hf : f ∈ s.snapshot.form.schema.fields) :
    (∃ r ∈ o.requests, r.field = f.id) ↔ t.snapshot.CalledBy o.changed f := by
  obtain ⟨entries, -, -, hset⟩ := h.sets
  have hform := hset.form_eq
  rw [← hform] at hs hf
  constructor
  · rintro ⟨r, hr, hfield⟩
    obtain ⟨key, hkey, hpending⟩ := (h.requests r).1 hr
    obtain ⟨g, hg, ⟨source, hsource, hdepends⟩, hrequest⟩ :=
      (Snapshot.mem_pendingRequests_iff hs).1 hpending
    have hid : g.id = f.id := (Snapshot.field_of_choiceRequest? hrequest).symm.trans hfield
    obtain rfl : g = f := List.inj_on_of_nodup_map hs.named.fields hg hf hid
    obtain ⟨source', hsource', hfilled⟩ := Snapshot.exists_choiceRequest?_iff.1 ⟨r, hrequest⟩
    obtain rfl : source = source' := Option.some.inj (hsource.symm.trans hsource')
    exact ⟨source, hsource, hfilled, key, hdepends, hkey⟩
  · rintro ⟨source, hsource, hfilled, key, hdepends, hkey⟩
    obtain ⟨r, hr⟩ := Snapshot.exists_choiceRequest?_iff.2 ⟨source, hsource, hfilled⟩
    refine ⟨r, (h.requests r).2 ⟨key, hkey, ?_⟩, Snapshot.field_of_choiceRequest? hr⟩
    exact (Snapshot.mem_pendingRequests_iff hs).2 ⟨f, hf, ⟨source, hsource, hdepends⟩, hr⟩

/-- A patch that succeeds has a request for a remote field exactly when all the field depends on is
filled in and one of its dependencies is a key of the patch; the request is the one for the values
after the patch. So a field with stale choices has its request, unless none of its dependencies is a
key and all that changed are set by rules behind the keys. -/
theorem requests_of_patch (hs : s.Reachable) {text : String} {o : PatchOutcome}
    (h : s.patch text = (.ok o, t)) {f : Field} (hf : f ∈ s.snapshot.form.schema.fields) :
    ((∃ r ∈ o.requests, r.field = f.id) ↔ t.snapshot.CalledBy o.changed f) ∧
    (∀ r ∈ o.requests, r.field = f.id → t.snapshot.choiceRequest? f = some r) ∧
    (s.snapshot.StaleChoices t.snapshot f → (∀ r ∈ o.requests, r.field ≠ f.id) →
      ∃ source, f.remote? = some source ∧ (∀ d ∈ source.dependsOn, d ∉ o.changed) ∧
        ∀ d ∈ source.dependsOn,
          sameOption (s.snapshot.values.get? d) (t.snapshot.values.get? d) = false →
          ∃ key ∈ o.changed, s.snapshot.form.graph.ConeSets key d) := by
  have hpatched := patched_of_patch h
  have hloaded := hs.snapshot.loaded
  have hcalled := hpatched.exists_request_iff hloaded hf
  obtain ⟨entries, -, hkeys, hset⟩ := hpatched.sets
  refine ⟨hcalled, fun r hr hfield => ?_, ?_⟩
  · obtain ⟨key, -, hpending⟩ := (hpatched.requests r).1 hr
    have hrequest := Snapshot.field?_of_mem_pendingRequests hpending
    rwa [hfield, hset.form_eq, (Schema.field?_eq_some_iff hloaded.named).2 ⟨hf, rfl⟩] at hrequest
  · rintro ⟨source, hsource, hfilled, -⟩ hnone
    have hoff : ∀ d ∈ source.dependsOn, d ∉ o.changed := by
      intro d hd hkey
      obtain ⟨r, hr, hfield⟩ := hcalled.2 ⟨source, hsource, hfilled, d, hd, hkey⟩
      exact hnone r hr hfield
    refine ⟨source, hsource, hoff, fun d hd hchanged => ?_⟩
    by_contra hcone
    have hsame := hset.get?_eq hloaded (hkeys ▸ hoff d hd) fun key hkey hsets =>
      hcone ⟨key, hkeys ▸ hkey, hsets⟩
    rw [hsame, Value.sameOption_refl] at hchanged
    cases hchanged

/-- Shops that are loaded for a currency. -/
def shops : Field where
  id := "shop"
  kind := .select
  choices := some (.remote { url := "https://market.test/shops", dependsOn := ["currency"] })

/-- A market whose currency is set once a country is given. -/
def marketForm : Schema where
  sections := [{
    id := "market"
    fields := [{ id := "country", kind := .text }, { id := "currency", kind := .text }, shops] }]
  rules := [{
    id := "euro_for_country"
    condition := .var "country" none
    actions := [.setValue "currency" (.string "EUR")] }]

def marketSession : Session :=
  ⟨(Form.ofSchema marketForm [] [] {}).start, (Form.ofSchema marketForm [] [] {}).start, [], []⟩

theorem marketSession_reachable : marketSession.Reachable :=
  ⟨marketForm, [], [], {}, _, [], [], Snapshot.build_eq_start (by decide +kernel), .refl⟩

theorem shops_mem_marketSession : shops ∈ marketSession.snapshot.form.schema.fields := by
  show shops ∈ (Form.ofSchema marketForm [] [] {}).start.form.schema.fields
  rw [Form.form_start]
  show shops ∈ [_, _, shops]
  simp

/-- Sets the country, so that the rule sets the currency. -/
def countryPatch : String := "\x7b\"country\": \"FR\"\x7d"

theorem exists_market_countryPatch :
    ∃ o t, marketSession.patch countryPatch = (.ok o, t) ∧
      marketSession.snapshot.StaleChoices t.snapshot shops ∧
      ∀ r ∈ o.requests, r.field ≠ shops.id := by
  obtain ⟨o, ho, hcomputed⟩ := exists_ok_of_any
    (show (marketSession.patch countryPatch).1.toOption.any (fun o =>
      decide (marketSession.snapshot.StaleChoices
        (marketSession.patch countryPatch).2.snapshot shops) && o.requests.isEmpty) = true
      by decide +kernel)
  rw [Bool.and_eq_true, decide_eq_true_eq, List.isEmpty_iff] at hcomputed
  refine ⟨o, _, patch_eq_of_reply ho, hcomputed.1, fun r hr => ?_⟩
  rw [hcomputed.2] at hr
  cases hr

/-- Once its country is set, the market has another currency and the shops are stale; the patch has
no request for them. -/
theorem patch_leaves_choices_stale :
    ∃ (s t : Session) (text : String) (o : PatchOutcome) (f : Field), s.Reachable ∧
      s.patch text = (.ok o, t) ∧ f ∈ s.snapshot.form.schema.fields ∧
      s.snapshot.StaleChoices t.snapshot f ∧ ∀ r ∈ o.requests, r.field ≠ f.id := by
  obtain ⟨o, t, hpatch, hstale, hnone⟩ := exists_market_countryPatch
  exact ⟨marketSession, t, countryPatch, o, shops, marketSession_reachable, hpatch,
    shops_mem_marketSession, hstale, hnone⟩

/-- Sets the currency itself. -/
def currencyPatch : String := "\x7b\"currency\": \"USD\"\x7d"

/-- The shops are asked for when the currency is patched. When it is set by the rule they are not,
and the theorem names the rule's cone. -/
theorem marketSession_requests :
    (∃ o t, marketSession.patch currencyPatch = (.ok o, t) ∧
      ∃ r ∈ o.requests, r.field = "shop" ∧ t.snapshot.choiceRequest? shops = some r) ∧
    ∃ o t, marketSession.patch countryPatch = (.ok o, t) ∧
      ∃ key ∈ o.changed, marketSession.snapshot.form.graph.ConeSets key "currency" := by
  constructor
  · obtain ⟨o, ho, hcomputed⟩ := exists_ok_of_any
      (show (marketSession.patch currencyPatch).1.toOption.any (fun o =>
        o.changed == ["currency"] &&
          (marketSession.patch currencyPatch).2.snapshot.isFilled "currency") = true
        by decide +kernel)
    rw [Bool.and_eq_true, beq_iff_eq] at hcomputed
    have hpatch := patch_eq_of_reply ho
    obtain ⟨hcalled, hrequest, -⟩ :=
      requests_of_patch marketSession_reachable hpatch shops_mem_marketSession
    obtain ⟨r, hr, hfield⟩ := hcalled.2 ⟨_, rfl, by simpa using hcomputed.2,
      "currency", List.mem_cons_self, by simp [hcomputed.1]⟩
    exact ⟨o, _, hpatch, r, hr, hfield, hrequest r hr hfield⟩
  · obtain ⟨o, t, hpatch, hstale, hnone⟩ := exists_market_countryPatch
    obtain ⟨source, hsource, -, hcone⟩ :=
      (requests_of_patch marketSession_reachable hpatch shops_mem_marketSession).2.2 hstale hnone
    obtain ⟨source', hsource', -, d, hd, hchanged⟩ := hstale
    cases hsource
    cases hsource'
    obtain rfl := List.mem_singleton.1 hd
    exact ⟨o, t, hpatch, hcone _ hd hchanged⟩

end Session

end FormEngine
