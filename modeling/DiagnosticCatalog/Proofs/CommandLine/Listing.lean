import DiagnosticCatalog.Proofs.CommandLine.Row
import DiagnosticCatalog.Proofs.CommandLine.Status
/-!
Listings. A run that lists issues writes those that are asked for and no others, each once and in the
order of their declarations; as text and as JSON it tells the same of them. The issues compiled in
fit into the columns of the text, and their numbers into the JSON.
-/

namespace DiagnosticCatalog

open Text

theorem IssueName.length_derive_le {identifier : String} (h : Ascii identifier.toList) :
    (IssueName.derive identifier).length ≤ identifier.length := by
  have hlength := congrArg List.length (IssueName.map_toLower_ofIdentifier h)
  rw [List.length_map] at hlength
  rw [IssueName.derive, String.length_ofList, hlength, ← String.length_toList]
  exact (List.length_filter_le _ _).trans (Nat.le_of_eq (List.length_map _))

namespace Standard

set_option maxRecDepth 20000 in
theorem widths_spec : (standardDeclarations.all fun d => Nat.blt d.code.toNat (Nat.pow 10 4) &&
    decide (0 ≤ d.code) && Nat.ble (octets d.identifier).length 40) = true := by
  decide +kernel

theorem exists_code {d : Declaration} (h : d ∈ standardDeclarations) :
    ∃ n : Nat, d.code = n ∧ n < Nat.pow 10 4 := by
  have hspec := List.all_eq_true.1 widths_spec d h
  simp only [Bool.and_eq_true, Nat.blt_eq, decide_eq_true_eq] at hspec
  exact ⟨d.code.toNat, (Int.toNat_of_nonneg hspec.1.2).symm, hspec.1.1⟩

theorem isWritable_code {d : Declaration} (h : d ∈ standardDeclarations) :
    Decimal.isWritable d.code = true := by
  obtain ⟨n, hn, hlt⟩ := exists_code h
  have hlimit : 4 ≤ Decimal.digitLimit := by decide
  rw [hn]
  simp only [Decimal.isWritable, Int.natAbs_natCast, decide_eq_true_eq]
  -- The limit stays a variable, so that its power of ten is not computed.
  generalize Decimal.digitLimit = k at hlimit ⊢
  exact Nat.lt_of_lt_of_le hlt (Nat.pow_le_pow_right (by decide) hlimit)

theorem fits {d : Declaration} (h : d ∈ standardDeclarations) :
    (Registry.issueOf standardDeclarations d).Fits := by
  refine ⟨exists_code h, fun c hc => (plain_of_mem_name h hc).1, ?_⟩
  have hspec := List.all_eq_true.1 widths_spec d h
  simp only [Bool.and_eq_true, Nat.ble_eq] at hspec
  have hlength := congrArg List.length (octets_identifier h)
  rw [List.length_map, String.length_toList] at hlength
  exact (IssueName.length_derive_le (ascii_identifier h)).trans (hlength ▸ hspec.2)

theorem writable {d : Declaration} (h : d ∈ standardDeclarations) :
    (Registry.issueOf standardDeclarations d).Writable := by
  refine ⟨isWritable_code h, fun c hc => ?_⟩
  obtain ⟨q, hq, rfl⟩ := Option.map_eq_some_iff.1 hc
  obtain ⟨_, _, hfound⟩ := Option.bind_eq_some_iff.1 hq
  exact isWritable_code (List.mem_of_find?_eq_some hfound)

end Standard

namespace CommandLine

open Registry

/-! ## Selection -/

theorem mem_entries_iff {l : Listing} {r : Registry} {e : Entry} :
    e ∈ l.entries r ↔ e ∈ r.entries ∧ (∀ c, l.category? = some c → e.issue.category = c) ∧
      (l.userSet = true → e.userSet = true) := by
  have hmark : (!l.userSet || e.userSet) = true ↔ (l.userSet = true → e.userSet = true) := by
    cases l.userSet <;> simp
  rw [Listing.entries, List.mem_filter, hmark, ← and_assoc]
  unfold inCategory
  cases l.category? with
  | none => simp
  | some c => simp only [List.mem_filter, decide_eq_true_eq, Option.some.injEq, forall_eq']

/-! ## Formats -/

/-- The entries that a listing is to have, and what is written of them: a line each, which ends where
it says that it does, and an object each. -/
structure Lists (r : Registry) (p : Promotion) (category? : Option Category) (userSet : Bool)
    (listed : List Entry) (lines : List String) (rows : List Json) : Prop where
  order : listed.Sublist r.entries
  once : (listed.map (·.issue.code)).Nodup
  chosen : ∀ e, e ∈ listed ↔ e ∈ r.entries ∧ (∀ c, category? = some c → e.issue.category = c) ∧
    (userSet = true → e.userSet = true)
  unbroken : ∀ line ∈ lines, '\n' ∉ line.toList
  formats : lines.map Told.ofLine? = rows.map Told.ofRow?
  told : List.Forall₂ (fun e row => ∃ t, r.effective e = .ok t ∧
    Told.ofRow? row = some ⟨e.issue.code, e.userSet, t.reported p⟩ ∧ Tells r e t row) listed rows

theorem read_canonical_list {vs : List Value} (h : ∀ v ∈ vs, v.Plain) :
    Json.read (canonical (.list vs)) = .ok (.array (vs.map Value.toJson)) := by
  have hread := Json.read_render (Value.Plain.list h).canonical (Value.marginOf (some 2))
  rw [Value.toJson, Value.toJsons_eq_map] at hread
  rw [canonical, Value.canonicalText, Value.toJson, Value.toJsons_eq_map]
  exact hread

theorem mem_of_withSeverity {r : Registry} {l : Listing} {xs : List (Entry × Severity)}
    (h : withSeverity r (l.entries r) = .ok xs) : ∀ x ∈ xs, x.1 ∈ r.entries := fun _ hx =>
  (sublist_entries l r).mem ((of_withSeverity h).1 ▸ List.mem_map_of_mem hx)

section

variable {r : Registry} (hr : r.Resolvable)
  (hissues : ∀ e ∈ r.entries, e.issue.Fits ∧ e.issue.Writable)

include hr hissues

theorem lists_withSeverity (p : Promotion) (l : Listing) {xs : List (Entry × Severity)}
    (hxs : withSeverity r (l.entries r) = .ok xs) :
    Lists r p l.category? l.userSet (l.entries r) (xs.map fun x => lineOf x.1 (x.2.reported p))
      (xs.map fun x => (objectOf (detailWith p r x.1 x.2)).toJson) := by
  have hsublist := sublist_entries l r
  obtain ⟨hfst, heffective⟩ := of_withSeverity hxs
  have hmem := mem_of_withSeverity hxs
  refine ⟨hsublist, (hsublist.map _).nodup hr.codes, fun e => mem_entries_iff, ?_, ?_, ?_⟩
  · simp only [List.forall_mem_map]
    exact fun x hx => newline_not_mem_line (hissues x.1 (hmem x hx)).1 _
  · simp only [List.map_map, List.map_inj_left, Function.comp_apply]
    intro x hx
    rw [ofRow?_detailWith]
    exact ofLine?_line (hissues x.1 (hmem x hx)).1 _
  · rw [← hfst, List.forall₂_map_left_iff, List.forall₂_map_right_iff, List.forall₂_same]
    intro x hx
    have ht := heffective x hx
    exact ⟨x.2, ht, ofRow?_detailWith p r x.1 x.2, tells_detailWith p hr (hmem x hx) ht⟩

theorem exists_lists (p : Promotion) (category? : Option Category) (userSet : Bool) :
    ∃ listed lines rows text, Lists r p category? userSet listed lines rows ∧
      Listing.output ⟨category?, userSet, false⟩ p r = .ok (textOf lines) ∧
      Listing.output ⟨category?, userSet, true⟩ p r = .ok text ∧
      Json.read text = .ok (.array rows) := by
  -- The format has no part in what is listed, so both loops go through the same entries.
  obtain ⟨xs, hxs⟩ := exists_withSeverity hr ⟨category?, userSet, false⟩
  have hmem := mem_of_withSeverity hxs
  have hplain : ∀ v ∈ xs.map fun x => objectOf (detailWith p r x.1 x.2), v.Plain :=
    List.forall_mem_map.2 fun x hx => plain_detailWith p r (hissues x.1 (hmem x hx)).2 x.2
  have hread := read_canonical_list hplain
  rw [List.map_map] at hread
  exact ⟨_, _, _, _, lists_withSeverity hr hissues p ⟨category?, userSet, false⟩ hxs,
    output_of_withSeverity hxs p, output_of_withSeverity (l := ⟨category?, userSet, true⟩) hxs p,
    hread⟩

end

/-! ## Runs -/

/-- Whatever a command line leaves of the issues compiled in, there is room for them. -/
theorem fits_configure (i : Invocation) (s? : Option Settings) :
    ∀ e ∈ (i.configure standard s?).registry.entries, e.issue.Fits ∧ e.issue.Writable := by
  obtain ⟨ws, hws⟩ := configure_commit i standard s?
  rw [hws, standard, entries_commit_build]
  refine List.forall_mem_map.2 fun d hd => ?_
  rw [entryAfter_issue]
  exact ⟨Standard.fits hd, Standard.writable hd⟩

theorem issues_configure (i : Invocation) (s? : Option Settings) :
    (i.configure standard s?).registry.issues =
      standardDeclarations.map (issueOf standardDeclarations) := by
  obtain ⟨ws, hws⟩ := configure_commit i standard s?
  rw [hws, standard, issues, entries_commit_build, List.map_map]
  exact List.map_congr_left fun d _ => entryAfter_issue _ ws d

/-- In any state that a command line has put the registry into, and for any choice of a category and
of a user's levels, there are entries, lines and objects, as many of each: the entries are those
chosen, each once and in the order of the declarations; a run that lists as text writes the lines, and
one that lists as JSON writes the objects, which say the same; and each object tells of its entry the
severity in effect, the same as the stored level unless that is inherited, and then the one in effect
for the parent, which it names. -/
theorem listing_exact (i : Invocation) (source : FileSource) (category? : Option Category)
    (userSet : Bool) {s? : Option Settings} {missed : List Text}
    (hload : i.loadSettings source = .ok s?)
    (hok : (i.configure standard s?).outcome = .ok missed) :
    let r := (i.configure standard s?).registry
    let asked (json : Bool) : Invocation :=
      { i with command? := some (.list ⟨category?, userSet, json⟩) }
    r.issues = standardDeclarations.map (issueOf standardDeclarations) ∧
    ∃ listed lines rows, Lists r (i.promotionWith s?) category? userSet listed lines rows ∧
      (∀ args, Invocation.read args = .ok (asked false) →
        ∃ t, run source args = .ok t ∧ t.output = textOf lines) ∧
      ∀ args, Invocation.read args = .ok (asked true) →
        ∃ t, run source args = .ok t ∧ Json.read t.output = .ok (.array rows) := by
  intro r asked
  obtain ⟨ws, hws⟩ := configure_commit i standard s?
  have hr : r.Resolvable := by
    rw [show r = standard.commit ws from hws]
    exact resolvable_commit_build sound_standardDeclarations ws
  obtain ⟨listed, lines, rows, text, hlists, hlines, htext, hread⟩ :=
    exists_lists hr (fits_configure i s?) (i.promotionWith s?) category? userSet
  refine ⟨issues_configure i s?, listed, lines, rows, hlists, fun args hargs => ?_,
    fun args hargs => ?_⟩
  · exact exists_run_listing (i := asked false) rfl hload hok hlines hargs
  · obtain ⟨t, hrun, rfl⟩ := exists_run_listing (i := asked true) rfl hload hok htext hargs
    exact ⟨t, hrun, hread⟩

def sampleWords (json : Bool) : List String :=
  ["--error", "AddedPackage", "--info", "ParseError, AddedPackage", "--config", "severity.json",
    "list", "--user-set"] ++ if json then ["--json"] else []

theorem read_sampleWords (json : Bool) : Invocation.read (sampleWords json) =
    .ok { sampleInvocation with command? := some (.list ⟨none, true, json⟩) } := by
  cases json <;> exact toOption_eq_some.1 (by decide +kernel)

/-- Both runs of one command line, with something to list. -/
theorem listing_exact_sample : ∃ t u lines rows,
    run sampleSource (sampleWords false) = .ok t ∧ t.output = textOf lines ∧ lines ≠ [] ∧
    run sampleSource (sampleWords true) = .ok u ∧ Json.read u.output = .ok (.array rows) ∧
    lines.map Told.ofLine? = rows.map Told.ofRow? := by
  have hok : sampleRun.outcome.isOk = true := by decide +kernel
  obtain ⟨missed, hmissed⟩ := exists_of_isOk hok
  obtain ⟨_, listed, lines, rows, hlists, htext, hjson⟩ := listing_exact sampleInvocation
    sampleSource none true loadSettings_sample hmissed
  obtain ⟨t, ht, hlines⟩ := htext _ (read_sampleWords false)
  obtain ⟨u, hu, hrows⟩ := hjson _ (read_sampleWords true)
  refine ⟨t, u, lines, rows, ht, hlines, ?_, hu, hrows, hlists.formats⟩
  rintro rfl
  have hlength := congrArg List.length hlists.formats
  rw [List.length_map, List.length_map, ← hlists.told.length_eq] at hlength
  obtain rfl := List.eq_nil_of_length_eq_zero hlength.symm
  have hfirst : ∃ e ∈ standard.entries.take 1,
      (sampleInvocation.settled sampleSettings e).userSet = true := by decide +kernel
  obtain ⟨e, he, huser⟩ := hfirst
  have hmem : sampleInvocation.settled sampleSettings e ∈ sampleRun.registry.entries := by
    rw [sampleRun, configure_entries sampleInvocation (pairwise_loadSettings loadSettings_sample)
      hmissed]
    exact List.mem_map_of_mem (List.mem_of_mem_take he)
  exact List.not_mem_nil ((hlists.chosen _).2 ⟨hmem, fun c hc => (by cases hc), fun _ => huser⟩)

end CommandLine

end DiagnosticCatalog
