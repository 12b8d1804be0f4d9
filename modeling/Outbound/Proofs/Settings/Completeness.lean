import Outbound.Settings.Assembly

/-!
# Settings without a problem are met completely

Three sets of rules say what settings may hold: the check of settings, the rules of a policy and
the rules of a limiter. Settings that pass the check pass the other two as well, and the parts that
are built from them leave out nothing that is listed. One bound is in none of the three: a limiter
cannot count more than so many slots.

## Main definitions

* `RetryPolicy.Heeds`: a policy does what settings list
* `RateSettings.isUncountable`: a limiter is asked for that cannot count its slots

## Main results

* `Settings.layers_of_problems_eq_nil`: the parts that settings without a problem are turned into
* `Settings.layers_crowded`: settings without a problem that cannot be turned into parts
-/

namespace Outbound

theorem SettingsProblem.when_eq_nil_iff {bad : Bool} {p : SettingsProblem} :
    when bad p = [] ↔ bad = false := by
  cases bad with
  | false => exact ⟨fun _ => rfl, fun _ => rfl⟩
  | true => exact ⟨nofun, nofun⟩

open SettingsProblem (when when_eq_nil_iff)

/-! ## Repetition -/

theorem Status.ofCode?_code (st : Status) : Status.ofCode? st.code = some st := dif_pos st.inRange

theorem Status.code_of_ofCode? {n : Nat} {st : Status} (h : Status.ofCode? n = some st) :
    st.code = n := by
  by_cases range : 100 ≤ n ∧ n < 1000
  · rw [Status.ofCode?, dif_pos range] at h
    obtain rfl := Option.some.inj h
    rfl
  · rw [Status.ofCode?, dif_neg range] at h
    cases h

theorem Method.name_of_ofName? {s : String} {m : Method} (h : Method.ofName? s = some m) :
    m.name = s := by
  by_cases token : isToken s = true
  · rw [Method.ofName?, if_pos token] at h
    obtain rfl := Option.some.inj h
    rfl
  · rw [Method.ofName?, if_neg token] at h
    cases h

namespace RetrySettings

variable {s : RetrySettings}

/-- **What the check of retry settings makes sure of,** as far as a policy depends on it. -/
structure Sound (s : RetrySettings) : Prop where
  jitter : s.jitter.isFraction = true
  multiplier : s.backoff = .exponential → s.multiplier.isMultiplier = true
  /-- Every listed code is a status. -/
  statuses : ∀ code ∈ s.statuses, (Status.ofCode? code).isSome
  /-- Every listed name is that of an idempotent method. -/
  methods : ∀ name ∈ s.methods, ∃ m, method? name = some m ∧ m.isIdempotent = true

theorem idempotent_of_methodProblem? {name : String} (h : methodProblem? name = none) :
    ∃ m, method? name = some m ∧ m.isIdempotent = true := by
  rw [methodProblem?] at h
  rcases known : method? name with _ | m
  · rw [known] at h
    cases h
  · rw [known] at h
    cases idempotent : m.isIdempotent with
    | true => exact ⟨m, rfl, idempotent⟩
    | false =>
      simp only [idempotent] at h
      cases h

theorem sound_of_problems (h : s.problems = []) : s.Sound := by
  simp only [problems, List.append_eq_nil_iff, when_eq_nil_iff, List.flatMap_eq_nil_iff,
    List.filterMap_eq_nil_iff] at h
  obtain ⟨⟨⟨⟨jitter, multiplier⟩, -⟩, statuses⟩, methods⟩ := h
  refine ⟨by simpa using jitter, ?_, ?_, fun name member =>
    idempotent_of_methodProblem? (methods name member)⟩
  · intro exponential
    simpa [exponential] using multiplier
  · intro code member
    have known := statuses code member
    rwa [Option.isNone_eq_false_iff] at known

/-- **No status is left out,** and none is put in. The induction is on the list alone, with the
check of each entry as its hypothesis. -/
theorem Sound.code_knownStatuses (h : s.Sound) : s.knownStatuses.map Status.code = s.statuses := by
  have each := h.statuses
  rw [knownStatuses]
  generalize s.statuses = codes at each ⊢
  induction codes with
  | nil => rfl
  | cons code rest ih =>
    obtain ⟨st, known⟩ := Option.isSome_iff_exists.mp (each code List.mem_cons_self)
    rw [List.filterMap_cons_some known, List.map_cons, Status.code_of_ofCode? known,
      ih fun c member => each c (List.mem_cons_of_mem code member)]

/-- **No method is left out,** and none is put in. -/
theorem Sound.name_knownMethods (h : s.Sound) :
    s.knownMethods.map Method.name = s.methods.map asciiUpper := by
  have each := h.methods
  rw [knownMethods]
  generalize s.methods = names at each ⊢
  induction names with
  | nil => rfl
  | cons name rest ih =>
    obtain ⟨m, known, -⟩ := each name List.mem_cons_self
    rw [List.filterMap_cons_some known, List.map_cons, List.map_cons, Method.name_of_ofName? known,
      ih fun n member => each n (List.mem_cons_of_mem name member)]

theorem Sound.isIdempotent (h : s.Sound) {m : Method} (member : m ∈ s.knownMethods) :
    m.isIdempotent = true := by
  obtain ⟨name, listed, known⟩ := List.mem_filterMap.mp member
  obtain ⟨m', known', idempotent⟩ := h.methods name listed
  obtain rfl := Option.some.inj (known.symm.trans known')
  exact idempotent

theorem mem_knownStatuses_iff {st : Status} : st ∈ s.knownStatuses ↔ st.code ∈ s.statuses := by
  rw [knownStatuses, List.mem_filterMap]
  constructor
  · rintro ⟨code, listed, known⟩
    rwa [Status.code_of_ofCode? known]
  · intro listed
    exact ⟨st.code, listed, st.ofCode?_code⟩

theorem Sound.mem_knownMethods_iff (h : s.Sound) {m : Method} :
    m ∈ s.knownMethods ↔ m.name ∈ s.methods.map asciiUpper := by
  rw [← h.name_knownMethods, List.mem_map]
  constructor
  · intro known
    exact ⟨m, known, rfl⟩
  · rintro ⟨m', known, same⟩
    rwa [← Method.ext same]

/-- **The rules of sound settings have no problem,** so they make a policy. Each of its own three
checks follows from one of those that settings have. -/
theorem Sound.problem?_rules (h : s.Sound) : s.rules.problem? = none := by
  have fraction : s.rules.jitter.isFraction = true := h.jitter
  have growth : s.rules.badMultiplier? = none := by
    simp only [RetryRules.badMultiplier?, rules, schedule]
    cases kind : s.backoff with
    | exponential => exact if_pos (h.multiplier kind)
    | _ => rfl
  have idempotent : s.rules.methods.find? (fun m => !m.isIdempotent) = none := by
    rw [List.find?_eq_none]
    intro m member
    simp [h.isIdempotent member]
  rw [RetryRules.problem?, fraction, growth, idempotent]
  rfl

end RetrySettings

/-- **A policy does what settings list,** and nothing that is listed is left out. -/
structure RetryPolicy.Heeds (p : RetryPolicy) (s : RetrySettings) : Prop where
  rules : p.rules = s.rules
  methods : p.rules.methods.map Method.name = s.methods.map asciiUpper
  statuses : p.rules.statuses.map Status.code = s.statuses
  /-- It applies to the listed methods, in upper case, and to no others. -/
  applies : ∀ m : Method, p.appliesTo m = true ↔ m.name ∈ s.methods.map asciiUpper
  /-- The listed statuses call for a repetition, and no others. -/
  response : ∀ r : Response, p.isRetryableResponse r = true ↔ r.status.code ∈ s.statuses
  /-- Failures of the listed kinds call for a repetition, and no others. -/
  failure : ∀ f : Failure, p.isRetryableFailure f = true ↔ ∃ kind ∈ f.kinds, kind ∈ s.kinds

theorem RetryRules.build_of_sound {r : RetryRules} (h : r.problem? = none) :
    r.build = .ok ⟨r, h⟩ := by
  unfold build
  split
  · next p found => exact nomatch h.symm.trans found
  · rfl

/-- **The policy of sound settings** does what they list. -/
theorem RetrySettings.Sound.heeds {s : RetrySettings} (h : s.Sound) :
    (⟨s.rules, h.problem?_rules⟩ : RetryPolicy).Heeds s where
  rules := rfl
  methods := h.name_knownMethods
  statuses := h.code_knownStatuses
  applies m := by
    rw [← h.mem_knownMethods_iff, RetryPolicy.appliesTo, Bool.and_eq_true]
    constructor
    · rintro ⟨-, listed⟩
      exact List.contains_iff_mem.mp listed
    · intro listed
      exact ⟨h.isIdempotent listed, List.contains_iff_mem.mpr listed⟩
  response r := by
    rw [← mem_knownStatuses_iff, RetryPolicy.isRetryableResponse]
    show (s.knownStatuses.contains r.status || false) = true ↔ _
    rw [Bool.or_false, List.contains_iff_mem]
  failure f := by
    rw [RetryPolicy.isRetryableFailure]
    show (f.kinds.any s.kinds.contains || false) = true ↔ _
    rw [Bool.or_false, List.any_eq_true]
    simp only [List.contains_iff_mem]

/-- The layer of sound settings. -/
theorem RetrySettings.Sound.layers {s : RetrySettings} (h : s.Sound) :
    s.layers = .ok (if s.enabled then [.retry ⟨s.rules, h.problem?_rules⟩] else []) := by
  rw [RetrySettings.layers, RetryRules.build_of_sound h.problem?_rules]
  cases s.enabled <;> rfl

/-! ## Rates -/

namespace RateSettings

variable {s : RateSettings}

/-- **A limiter is asked for that cannot count its slots.** -/
def isUncountable (s : RateSettings) : Bool :=
  s.enabled && s.maxConcurrency.any fun cap => decide (Limiter.greatestCap < cap)

/-- **The configuration of rate settings without a problem** has none either; a burst that is not
given is as great as the rate. -/
theorem problem?_config (h : s.problems = []) : s.config.problem? = none := by
  simp only [problems, List.append_eq_nil_iff, when_eq_nil_iff, decide_eq_false_iff_not] at h
  obtain ⟨⟨⟨rate, burst⟩, cap⟩, maintenance⟩ := h
  have capacity : s.config.burst ≠ 0 := by
    show s.burst.getD s.rate ≠ 0
    rcases given : s.burst with _ | n
    · exact rate
    · rintro (rfl : n = 0)
      exact burst given
  have period : s.config.maintenance.isZero = false := by
    show decide (s.maintenanceSeconds * 1000000000 = 0) = false
    exact decide_eq_false (by omega)
  rw [LimiterConfig.problem?, if_neg (show ¬ s.config.rate = 0 from rate),
    if_neg fun h => capacity h.2, if_neg (show ¬ s.config.maxConcurrency = some 0 from cap), period]
  rfl

/-- The limiters of rate settings without a problem. The checks are done, and whether the slots can
be counted is all that is left open. -/
theorem limiters_of_problems_eq_nil (h : s.problems = []) (now : Nat) :
    s.limiters now = if s.isUncountable then .error .uncountable
      else .ok (if s.enabled then [.ofConfig s.config now] else []) := by
  rw [limiters, isUncountable]
  cases s.enabled with
  | false => rfl
  | true =>
    have cap : s.config.maxConcurrency = s.maxConcurrency := rfl
    rw [if_pos rfl, if_pos rfl, Bool.true_and, Limiter.build, problem?_config h, cap]
    cases s.maxConcurrency.any fun cap => decide (Limiter.greatestCap < cap) <;> rfl

end RateSettings

/-! ## Settings -/

namespace Settings

variable {s : Settings}

/-- The layers that settings without a problem ask for, with their policy. -/
def completeLayers (s : Settings) (p : RetryPolicy) : List Layer :=
  [.requestId, .tracing, .deadline s.timeouts.timeouts] ++ (if s.retry.enabled then [.retry p] else [])
    ++ if s.rateLimit.enabled then [.rateLimit 0] else []

/-- The layers of settings whose parts have no problem. -/
theorem layers_of_sound (retry : s.retry.Sound) (rate : s.rateLimit.problems = []) (now : Nat) :
    s.layers now =
      if s.rateLimit.isUncountable then .error .uncountable
      else .ok (s.completeLayers ⟨s.retry.rules, retry.problem?_rules⟩,
        if s.rateLimit.enabled then [.ofConfig s.rateLimit.config now] else []) := by
  rw [layers, retry.layers, RateSettings.limiters_of_problems_eq_nil rate, completeLayers]
  cases s.rateLimit.isUncountable with
  | true => rfl
  | false => cases s.rateLimit.enabled <;> rfl

/-- **Settings without a problem are met completely.** Their rules make a policy that does what they
list, their limiter has a configuration without a problem, and all of their layers are built, unless
a limiter is asked for that cannot count its slots: then none is. -/
theorem layers_of_problems_eq_nil (valid : s.problems = []) :
    s.rateLimit.config.problem? = none ∧
    ∃ p : RetryPolicy, s.retry.rules.build = .ok p ∧ p.Heeds s.retry ∧
      ∀ now, s.layers now =
        if s.rateLimit.isUncountable then .error .uncountable
        else .ok (s.completeLayers p,
          if s.rateLimit.enabled then [.ofConfig s.rateLimit.config now] else []) := by
  simp only [problems, List.append_eq_nil_iff] at valid
  obtain ⟨⟨⟨retry, rate⟩, -⟩, -⟩ := valid
  have sound := RetrySettings.sound_of_problems retry
  exact ⟨RateSettings.problem?_config rate, _, RetryRules.build_of_sound sound.problem?_rules,
    sound.heeds, layers_of_sound sound rate⟩

/-- Methods in lower case, one status, and as many slots as can be counted. -/
def narrow : Settings where
  retry := { statuses := [503], methods := ["get", "Put"] }
  rateLimit := { enabled := true, maxConcurrency := some Limiter.greatestCap }

/-- Settings that are met: calls that read or store are repeated after a status, up to a limiter of
the greatest cap. -/
theorem layers_of_problems_eq_nil_narrow :
    narrow.problems = [] ∧ narrow.rateLimit.config.problem? = none ∧
    ∃ p : RetryPolicy, narrow.retry.rules.build = .ok p ∧ p.Heeds narrow.retry ∧
      p.appliesTo ⟨"PUT"⟩ = true ∧ p.appliesTo ⟨"DELETE"⟩ = false ∧
      ∀ now, narrow.layers now = .ok (narrow.completeLayers p, [.ofConfig narrow.rateLimit.config now]) := by
  have valid : narrow.problems = [] := by decide +kernel
  obtain ⟨config, p, built, heeds, layers⟩ := layers_of_problems_eq_nil valid
  refine ⟨valid, config, p, built, heeds, (heeds.applies _).mpr (by decide +kernel), ?_, layers⟩
  rw [Bool.eq_false_iff]
  intro applies
  exact absurd ((heeds.applies _).mp applies) (by decide +kernel)

/-- One slot more than can be counted, and all else standard. -/
def crowded : Settings where
  rateLimit := { enabled := true, maxConcurrency := some (Limiter.greatestCap + 1) }

/-- **Settings without a problem that cannot be turned into parts:** the check does not look at the
greatest cap of a limiter. -/
theorem layers_crowded :
    crowded.problems = [] ∧ ∀ now, crowded.layers now = .error .uncountable := by
  have retry : crowded.retry.Sound := RetrySettings.sound_of_problems (by decide +kernel)
  refine ⟨by decide +kernel, ?_⟩
  intro now
  rw [layers_of_sound retry (by decide)]
  rfl

end Settings

end Outbound
