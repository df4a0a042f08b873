import Mathlib.Data.List.MinMax
import TenantStorage.Logging.Filter

/-!
# What the caps on client libraries do

A cap is one more directive, and it decides only where no other directive describes the events more closely.
It takes the place of a directive that lets less through, and it gives way to one that lets more through.

* `OnlyRestricts` — the filter with the caps lets through no event that the base holds back, and no event
  outside of a cap.
* `Restrained` — what has to be true of the base for that, cap by cap.  Of the endlessly many targets below a
  cap only the cap's own and those of the directives of the base count.
* `onlyRestricts_iff` — the caps only restrict if and only if the base is restrained at each of them.

A directive decides in the same way on its own target and on every longer target that it decides on, because
the directives that describe the longer target more closely are the only difference between the two
(`applicable_below`).
-/

namespace TenantStorage.Logging

/-- One threshold lets through no more than another. -/
def Threshold.Within (inner outer : Threshold) : Prop :=
  ∀ severity ∈ Severity.all, inner.passes severity = true → outer.passes severity = true

instance (inner outer : Threshold) : Decidable (inner.Within outer) :=
  inferInstanceAs (Decidable (∀ severity ∈ Severity.all, _))

theorem Severity.mem_all (severity : Severity) : severity ∈ Severity.all := by
  cases severity <;> decide

namespace Filter

variable {filter base : Filter} {directive cap e : Directive} {target start : String}

/-! ### The first of the greatest -/

section Argmax

variable {α : Type} {f : α → Nat} {a e : α} {l : List α}

theorem argmax_cons_of_le (h : ∀ b ∈ l, f b ≤ f a) : (a :: l).argmax f = some a := by
  rw [List.argmax_cons]
  cases hrest : l.argmax f with
  | none => rfl
  | some c => exact if_neg (h c (List.argmax_mem hrest)).not_gt

/-- The greatest stays the greatest where smaller ones are left out. -/
theorem argmax_filter_of_lt {keep : α → Bool} (h : l.argmax f = some e)
    (hout : ∀ b ∈ l, keep b = false → f b < f e) : (l.filter keep).argmax f = some e := by
  induction l generalizing e with
  | nil => simp at h
  | cons a rest ih =>
    have hle : ∀ b ∈ a :: rest, f b ≤ f e := fun b hb => List.le_of_mem_argmax hb h
    have hkept : e = a → keep a = true := by
      rintro rfl
      by_contra hkeep
      exact lt_irrefl _ (hout e List.mem_cons_self (by simpa using hkeep))
    have hfirst : e = a → ((a :: rest).filter keep).argmax f = some e := by
      intro heq
      rw [List.filter_cons_of_pos (hkept heq), ← heq]
      exact argmax_cons_of_le fun b hb => hle b (List.mem_cons_of_mem a (List.mem_of_mem_filter hb))
    rw [List.argmax_cons] at h
    cases hrest : rest.argmax f with
    | none => exact hfirst (by simpa [hrest] using h.symm)
    | some c =>
      simp only [hrest] at h
      split at h
      · rename_i hlt
        obtain rfl : c = e := Option.some.inj h
        have htail := ih hrest fun b hb => hout b (List.mem_cons_of_mem a hb)
        cases hkeep : keep a with
        | false => rwa [List.filter_cons_of_neg (by simp [hkeep])]
        | true => rw [List.filter_cons_of_pos hkeep, List.argmax_cons, htail]; exact if_pos hlt
      · exact hfirst (Option.some.inj h).symm

end Argmax

/-! ### Which directives speak of a target -/

/-- The directives that speak of a target. -/
def applicable (filter : Filter) (target : String) : List Directive := filter.directives.filter (isFor · target)

theorem mem_applicable : directive ∈ filter.applicable target ↔
    directive ∈ filter.directives ∧ isFor directive target = true := List.mem_filter

theorem startsWith_iff : Text.startsWith target start = true ↔ start.toList <+: target.toList :=
  List.isPrefixOf_iff_prefix

/-- Of two targets one of which begins with the other, a directive speaks of both, or only of the longer. -/
theorem isFor_of_shorter (hstart : start.toList <+: target.toList) (h : isFor directive start = true) :
    isFor directive target = true := by
  simp only [isFor, Bool.and_eq_true, Option.all_eq_true, startsWith_iff] at h ⊢
  exact ⟨h.1, fun name hname => (h.2 name hname).trans hstart⟩

theorem isFor_of_longer (hstart : start.toList <+: target.toList)
    (hshort : ∀ name ∈ directive.target, name.toList.length ≤ start.toList.length)
    (h : isFor directive target = true) : isFor directive start = true := by
  simp only [isFor, Bool.and_eq_true, Option.all_eq_true, startsWith_iff] at h ⊢
  exact ⟨h.1, fun name hname => List.prefix_of_prefix_length_le (h.2 name hname) hstart (hshort name hname)⟩

theorem isFor_congr (h : sameEvents directive e = true) : isFor directive target = isFor e target := by
  simp only [sameEvents, Bool.and_eq_true, beq_iff_eq] at h
  simp only [isFor, h.1.1, h.1.2, h.2]

/-! ### How closely a directive describes its events -/

theorem weight_congr (h : sameEvents directive e = true) : weight directive = weight e := by
  simp only [sameEvents, Bool.and_eq_true, beq_iff_eq] at h
  simp only [weight, h.1.1, h.2]

theorem weight_of_no_target (h : directive.target = none) : weight directive ≤ 1 := by
  simp only [weight, h]
  split <;> omega

theorem weight_of_target (h : directive.target = some start) :
    2 * (start.toList.length + 1) ≤ weight directive ∧ weight directive ≤ 2 * (start.toList.length + 1) + 1 := by
  simp only [weight, h]
  split <;> omega

/-- Only a directive for a target that is at least as long describes its events more closely. -/
theorem exists_target_of_weight_lt (htarget : directive.target = some start) (h : weight directive < weight e) :
    ∃ narrower, e.target = some narrower ∧ start.toList.length ≤ narrower.toList.length := by
  have hdirective := weight_of_target htarget
  cases hnarrower : e.target with
  | none =>
    have he := weight_of_no_target hnarrower
    omega
  | some narrower =>
    have he := weight_of_target hnarrower
    exact ⟨narrower, rfl, by omega⟩

/-- A directive that describes its events no more closely is for a target that is no longer. -/
theorem length_le_of_weight_le (htarget : directive.target = some start) (h : weight e ≤ weight directive) :
    ∀ name ∈ e.target, name.toList.length ≤ start.toList.length := by
  intro name hname
  have hdirective := weight_of_target htarget
  have he := weight_of_target hname
  omega

/-! ### What decides -/

theorem deciding?_eq_argmax (filter : Filter) (target : String) :
    filter.deciding? target = (filter.applicable target).argmax weight := by
  show List.foldl _ none _ = List.foldl _ none _
  congr 1
  funext best directive
  cases best <;> rfl

theorem mem_applicable_of_deciding? (h : filter.deciding? target = some e) : e ∈ filter.applicable target := by
  rw [deciding?_eq_argmax] at h
  exact List.argmax_mem h

/-- Where a directive speaks of a target, one decides that describes its events at least as closely. -/
theorem exists_deciding? (h : directive ∈ filter.applicable target) :
    ∃ e, filter.deciding? target = some e ∧ weight directive ≤ weight e := by
  rw [deciding?_eq_argmax]
  cases hdecides : (filter.applicable target).argmax weight with
  | none => rw [List.argmax_eq_none.1 hdecides] at h; simp at h
  | some e => exact ⟨e, rfl, List.le_of_mem_argmax h hdecides⟩

theorem applicable_add (filter : Filter) (directive : Directive) (target : String) :
    (filter.add directive).applicable target =
      [directive].filter (isFor · target) ++ (filter.applicable target).filter (!sameEvents · directive) := by
  rw [applicable, add, ← List.singleton_append, List.filter_append, applicable, List.filter_comm]

/-- A directive changes nothing for the targets that it does not speak of. -/
theorem deciding?_add_of_not_isFor (h : isFor directive target = false) :
    (filter.add directive).deciding? target = filter.deciding? target := by
  have hkept : (filter.applicable target).filter (!sameEvents · directive) = filter.applicable target := by
    refine List.filter_eq_self.2 fun e he => ?_
    cases hsame : sameEvents e directive with
    | false => rfl
    | true => rw [← isFor_congr hsame, (mem_applicable.1 he).2] at h; exact absurd h (by simp)
  rw [deciding?_eq_argmax, applicable_add, hkept, List.filter_cons_of_neg (by simp [h]), List.filter_nil,
    List.nil_append, deciding?_eq_argmax]

/-- An added directive decides on the targets that it speaks of, unless what decided before describes its events
    more closely. -/
theorem deciding?_add (h : isFor directive target = true) : (filter.add directive).deciding? target =
    ((filter.deciding? target).filter (weight directive < weight ·)).or (some directive) := by
  rw [deciding?_eq_argmax, applicable_add, List.filter_cons_of_pos (by exact h), List.filter_nil, List.singleton_append]
  by_cases hheavier : ∃ e, filter.deciding? target = some e ∧ weight directive < weight e
  · obtain ⟨e, he, hlt⟩ := hheavier
    have hrest : ((filter.applicable target).filter (!sameEvents · directive)).argmax weight = some e := by
      refine argmax_filter_of_lt (by rwa [← deciding?_eq_argmax]) fun d _ hsame => ?_
      rwa [weight_congr (by simpa using hsame)]
    rw [List.argmax_cons, hrest, he, Option.filter_some_pos (by simpa using hlt)]
    exact if_pos hlt
  · have hle : ∀ d ∈ filter.applicable target, weight d ≤ weight directive := by
      intro d hd
      obtain ⟨e, he, hde⟩ := exists_deciding? hd
      exact hde.trans (not_lt.1 fun hlt => hheavier ⟨e, he, hlt⟩)
    rw [argmax_cons_of_le fun d hd => hle d (List.mem_of_mem_filter hd)]
    have hnone : (filter.deciding? target).filter (weight directive < weight ·) = none := by
      rw [Option.filter_eq_none_iff]
      intro e he hlt
      exact hheavier ⟨e, he, by simpa using hlt⟩
    rw [hnone, Option.none_or]

/-- What decides on a target decides in the same way on the beginning of it that a directive is for, if that
    directive describes its events at least as closely. -/
theorem applicable_below (htarget : directive.target = some start) (hstart : start.toList <+: target.toList)
    (h : ∀ e ∈ filter.applicable target, weight e ≤ weight directive) :
    filter.applicable target = filter.applicable start := by
  refine List.filter_congr fun e he => ?_
  cases hfor : isFor e target with
  | true =>
    have hle := h e (mem_applicable.2 ⟨he, hfor⟩)
    exact (isFor_of_longer hstart (length_le_of_weight_le htarget hle) hfor).symm
  | false =>
    cases hshort : isFor e start with
    | true => exact absurd (isFor_of_shorter hstart hshort) (by simp [hfor])
    | false => rfl

theorem deciding?_below (htarget : directive.target = some start) (hstart : start.toList <+: target.toList)
    (h : ∀ e, filter.deciding? target = some e → weight e ≤ weight directive) :
    filter.deciding? target = filter.deciding? start := by
  have hsame : filter.applicable target = filter.applicable start := by
    refine applicable_below htarget hstart fun e he => ?_
    obtain ⟨best, hbest, hle⟩ := exists_deciding? he
    exact hle.trans (h best hbest)
  rw [deciding?_eq_argmax, deciding?_eq_argmax, hsame]

/-- A directive that decides on a target decides on its own target, too. -/
theorem decides_on_own_target (h : filter.deciding? target = some e) (htarget : e.target = some start) :
    start.toList <+: target.toList ∧ filter.deciding? start = some e := by
  obtain ⟨-, hfor⟩ := mem_applicable.1 (mem_applicable_of_deciding? h)
  simp only [isFor, Bool.and_eq_true, Option.all_eq_true, startsWith_iff] at hfor
  have hstart : start.toList <+: target.toList := hfor.2 start htarget
  have hsame : filter.deciding? target = filter.deciding? start := by
    refine deciding?_below htarget hstart fun best hbest => ?_
    rw [h] at hbest
    exact (congrArg weight (Option.some.inj hbest)).ge
  exact ⟨hstart, hsame.symm.trans h⟩

/-! ### Several caps -/

/-- The targets that a cap is for. -/
theorem isFor_cap {name : String} {severity : Severity} :
    isFor (.cap name severity) target = Text.startsWith target name := by
  simp [isFor, Directive.cap]

theorem deciding?_addAll_of_not_isFor {directives : List Directive}
    (h : ∀ directive ∈ directives, isFor directive target = false) :
    (directives.foldl add filter).deciding? target = filter.deciding? target := by
  induction directives generalizing filter with
  | nil => rfl
  | cons directive rest ih =>
    rw [List.foldl_cons, ih fun d hd => h d (List.mem_cons_of_mem _ hd),
      deciding?_add_of_not_isFor (h directive List.mem_cons_self)]

/-- Two names neither of which begins with the other are the beginning of no common text. -/
theorem not_startsWith_of_apart {name other : String} (hname : Text.startsWith name other = false)
    (hother : Text.startsWith other name = false) (h : Text.startsWith target name = true) :
    Text.startsWith target other = false := by
  by_contra hboth
  rw [Bool.not_eq_false] at hboth
  cases List.prefix_or_prefix_of_prefix (startsWith_iff.1 h) (startsWith_iff.1 hboth) with
  | inl hlonger => simp [startsWith_iff.2 hlonger] at hother
  | inr hlonger => simp [startsWith_iff.2 hlonger] at hname

/-- No target is below two caps. -/
theorem caps_apart : caps.Pairwise fun a b => ∀ target, isFor a target = true → isFor b target = false := by
  simp only [caps, List.pairwise_cons, List.forall_mem_cons, isFor_cap]
  refine ⟨⟨?_, ?_, ?_, ?_⟩, ⟨?_, ?_, ?_⟩, ⟨?_, ?_⟩, ?_⟩
  all_goals first
    | exact fun _ => not_startsWith_of_apart (by decide +kernel) (by decide +kernel)
    | simp

/-- Below a cap, the cap decides unless what decides without it describes its events more closely. -/
theorem deciding?_capped (hcap : cap ∈ caps) (hfor : isFor cap target = true) :
    (caps.foldl add base).deciding? target =
      ((base.deciding? target).filter (weight cap < weight ·)).or (some cap) := by
  obtain ⟨before, after, hcaps⟩ := List.mem_iff_append.1 hcap
  have hapart := caps_apart
  rw [hcaps, List.pairwise_append, List.pairwise_cons] at hapart
  have hbefore : ∀ directive ∈ before, isFor directive target = false := by
    intro directive hdirective
    by_contra hboth
    rw [Bool.not_eq_false] at hboth
    simp [hapart.2.2 directive hdirective cap List.mem_cons_self target hboth] at hfor
  have hafter : ∀ directive ∈ after, isFor directive target = false := fun directive hdirective =>
    hapart.2.1.1 directive hdirective target hfor
  rw [hcaps, List.foldl_append, List.foldl_cons, deciding?_addAll_of_not_isFor hafter, deciding?_add hfor,
    deciding?_addAll_of_not_isFor hbefore]

/-! ### What is let through below a cap -/

/-- What decides on a target describes its events more closely than a cap. -/
def Outranked (base : Filter) (cap : Directive) (target : String) : Prop :=
  ∃ e ∈ base.deciding? target, weight cap < weight e

instance : Decidable (Outranked base cap target) := inferInstanceAs (Decidable (∃ e ∈ base.deciding? target, _))

theorem deciding?_capped_of_outranked (hcap : cap ∈ caps) (hfor : isFor cap target = true)
    (h : Outranked base cap target) : (caps.foldl add base).deciding? target = base.deciding? target := by
  obtain ⟨e, he, hlt⟩ := h
  rw [deciding?_capped hcap hfor, he, Option.filter_some_pos (by simpa using hlt), Option.some_or]

theorem deciding?_capped_of_not_outranked (hcap : cap ∈ caps) (hfor : isFor cap target = true)
    (h : ¬Outranked base cap target) : (caps.foldl add base).deciding? target = some cap := by
  have hnone : (base.deciding? target).filter (weight cap < weight ·) = none := by
    rw [Option.filter_eq_none_iff]
    intro e he hlt
    exact h ⟨e, he, by simpa using hlt⟩
  rw [deciding?_capped hcap hfor, hnone, Option.none_or]

/-- What describes the events of a cap's own target more closely than the cap does so below it, too. -/
theorem Outranked.below (hstart : start.toList <+: target.toList) (h : Outranked base cap start) :
    Outranked base cap target := by
  obtain ⟨e, he, hlt⟩ := h
  obtain ⟨hmem, hfor⟩ := mem_applicable.1 (mem_applicable_of_deciding? he)
  obtain ⟨best, hbest, hle⟩ := exists_deciding? (mem_applicable.2 ⟨hmem, isFor_of_shorter hstart hfor⟩)
  exact ⟨best, hbest, hlt.trans_le hle⟩

/-! ### When the caps only restrict -/

/-- A filter lets through nothing that the base holds back, and nothing outside of the caps. -/
def OnlyRestricts (filter base : Filter) : Prop :=
  ∀ target severity, filter.passes target severity = true → base.passes target severity = true ∧
    ∀ cap ∈ caps, isFor cap target = true → cap.threshold.passes severity = true

/-- Where the cap decides on its own target, the base lets everything through that the cap lets through; and the
    directives of the base that decide against the cap on their own targets let no more through than the cap. -/
def Restrained (base : Filter) (cap : Directive) : Prop :=
  ∀ start ∈ cap.target,
    (Outranked base cap start ∨ ∀ severity ∈ Severity.all, cap.threshold.passes severity = true →
      base.passes start severity = true) ∧
    ∀ directive ∈ base.directives, ∀ narrower ∈ directive.target, Text.startsWith narrower start = true →
      base.deciding? narrower = some directive → weight cap < weight directive →
        directive.threshold.Within cap.threshold

instance : Decidable (Restrained base cap) := inferInstanceAs (Decidable (∀ start ∈ cap.target, _))

theorem passes_of_deciding? {severity : Severity} (h : filter.deciding? target = some directive) :
    filter.passes target severity = directive.threshold.passes severity := by
  rw [passes, h]

theorem passes_congr {severity : Severity} (h : filter.deciding? target = base.deciding? start) :
    filter.passes target severity = base.passes start severity := by
  rw [passes, passes, h]

theorem exists_start_of_mem_caps (h : cap ∈ caps) : ∃ start, cap.target = some start ∧
    ∀ target, isFor cap target = Text.startsWith target start := by
  simp only [caps, List.mem_cons, List.not_mem_nil, or_false] at h
  rcases h with rfl | rfl | rfl | rfl <;> exact ⟨_, rfl, fun _ => isFor_cap⟩

/-- Below a restrained cap nothing more is let through than without the cap, and nothing outside of the cap. -/
theorem Restrained.restricts {severity : Severity} (hcap : cap ∈ caps) (hfor : isFor cap target = true)
    (h : Restrained base cap) (hpasses : (caps.foldl add base).passes target severity = true) :
    base.passes target severity = true ∧ cap.threshold.passes severity = true := by
  obtain ⟨start, hstart, hisFor⟩ := exists_start_of_mem_caps hcap
  obtain ⟨hreached, hbounded⟩ := h start hstart
  have hprefix : start.toList <+: target.toList := startsWith_iff.1 (by rwa [← hisFor])
  by_cases houtranked : Outranked base cap target
  · rw [passes_congr (deciding?_capped_of_outranked hcap hfor houtranked)] at hpasses
    refine ⟨hpasses, ?_⟩
    obtain ⟨e, he, hlt⟩ := houtranked
    rw [passes_of_deciding? he] at hpasses
    -- The directive decides on its own target, which lies between the cap's and this one.
    obtain ⟨narrower, hnarrower, hlength⟩ := exists_target_of_weight_lt hstart hlt
    obtain ⟨hmem, -⟩ := mem_applicable.1 (mem_applicable_of_deciding? he)
    obtain ⟨hbelow, hown⟩ := decides_on_own_target he hnarrower
    have hstarts : Text.startsWith narrower start = true :=
      startsWith_iff.2 (List.prefix_of_prefix_length_le hprefix hbelow hlength)
    exact hbounded e hmem narrower hnarrower hstarts hown hlt severity severity.mem_all hpasses
  · rw [passes_of_deciding? (deciding?_capped_of_not_outranked hcap hfor houtranked)] at hpasses
    refine ⟨?_, hpasses⟩
    have hsame : base.deciding? target = base.deciding? start :=
      deciding?_below hstart hprefix fun e he => not_lt.1 fun hlt => houtranked ⟨e, he, hlt⟩
    rw [passes_congr hsame]
    cases hreached with
    | inl hown => exact absurd (hown.below hprefix) houtranked
    | inr hreached => exact hreached severity severity.mem_all hpasses

/-- If the caps only restrict, each of them is restrained: that shows at its own target, and at those of the
    directives that decide against it. -/
theorem OnlyRestricts.restrained (hcap : cap ∈ caps) (h : OnlyRestricts (caps.foldl add base) base) :
    Restrained base cap := by
  intro start hstart
  obtain ⟨name, hname, hisFor⟩ := exists_start_of_mem_caps hcap
  obtain rfl : name = start := Option.some.inj (hname.symm.trans hstart)
  constructor
  · by_cases houtranked : Outranked base cap name
    · exact .inl houtranked
    · refine .inr fun severity _ hpasses => (h name severity ?_).1
      have hfor : isFor cap name = true := (hisFor name).trans (startsWith_iff.2 List.prefix_rfl)
      rwa [passes_of_deciding? (deciding?_capped_of_not_outranked hcap hfor houtranked)]
  · intro directive _ narrower _ hstarts hdecides hlt severity _ hpasses
    have hfor : isFor cap narrower = true := by rwa [hisFor]
    refine (h narrower severity ?_).2 cap hcap hfor
    rwa [passes_congr (deciding?_capped_of_outranked hcap hfor ⟨directive, hdecides, hlt⟩),
      passes_of_deciding? hdecides]

/-- **The caps.**  The filter of the settings and an override lets through nothing that the base holds back and
    nothing outside of a cap, if and only if the base is restrained at each cap. -/
theorem onlyRestricts_iff (settings : Settings.Logging) (override : Option String) {base : Filter}
    (h : baseFilter settings override = .ok base) :
    ∃ filter, filterOf settings override = .ok filter ∧
      (OnlyRestricts filter base ↔ ∀ cap ∈ caps, Restrained base cap) := by
  refine ⟨caps.foldl Filter.add base, by rw [filterOf, h]; rfl, ?_⟩
  constructor
  · exact fun honly cap hcap => honly.restrained hcap
  · intro hrestrained target severity hpasses
    by_cases hbelow : ∃ cap ∈ caps, isFor cap target = true
    · obtain ⟨cap, hcap, hfor⟩ := hbelow
      refine ⟨((hrestrained cap hcap).restricts hcap hfor hpasses).1, fun cap hcap hfor => ?_⟩
      exact ((hrestrained cap hcap).restricts hcap hfor hpasses).2
    · have hnone : ∀ cap ∈ caps, isFor cap target = false := by
        intro cap hcap
        by_contra hfor
        exact hbelow ⟨cap, hcap, by simpa using hfor⟩
      rw [passes_congr (deciding?_addAll_of_not_isFor hnone)] at hpasses
      exact ⟨hpasses, fun cap hcap hfor => absurd hfor (by simp [hnone cap hcap])⟩

/-- The caps only restrict an override that lets through all that they do, and less for a part of a library. -/
theorem onlyRestricts_debug : ∃ base filter, baseFilter default (some "debug,kube::client=error") = .ok base ∧
    filterOf default (some "debug,kube::client=error") = .ok filter ∧ OnlyRestricts filter base := by
  obtain ⟨filter, hfilter, hiff⟩ := onlyRestricts_iff default (some "debug,kube::client=error") rfl
  exact ⟨_, filter, rfl, hfilter, hiff.2 (by decide +kernel)⟩

/-- An override that holds back everything but errors, and lets a part of a library through, is raised by the caps
    and not capped by them. -/
theorem caps_raise_and_give_way :
    ∃ base filter, baseFilter default (some "error,hyper::client=trace") = .ok base ∧
      filterOf default (some "error,hyper::client=trace") = .ok filter ∧
      (filter.passes "hyper" .warn = true ∧ base.passes "hyper" .warn = false) ∧
      filter.passes "hyper::client" .trace = true ∧ Directive.cap "hyper" .warn ∈ caps ∧
      isFor (.cap "hyper" .warn) "hyper::client" = true ∧
      (Directive.cap "hyper" .warn).threshold.passes .trace = false := by
  refine ⟨_, _, rfl, rfl, ?_⟩
  decide +kernel

end Filter

end TenantStorage.Logging
