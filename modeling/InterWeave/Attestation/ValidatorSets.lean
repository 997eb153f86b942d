import InterWeave.Attestation.ThresholdAttestation
import InterWeave.Atomic.Machine
import Mathlib.Data.Finset.Dedup
import Mathlib.Data.Finset.Max
import Mathlib.Data.List.Pairwise

/-! # Registered validator sets

What `assertValidatorSet` promises about every set of a registry: identities and
keys belong to one member each, the interval of every member is meant, and the
threshold can be met at every instant of the interval of the set, since members
come and go only at the instants that were checked.
-/

namespace InterWeave

open Atomic

variable {platform : Platform}

theorem parseTime_ok {value name : JsString} {time : Int}
    (parsed : parseTime platform value name = .ok time) : platform.dateParse value = some time := by
  rw [parseTime] at parsed
  split at parsed
  · rename_i known
    cases parsed
    exact known
  · cases parsed

/-! ## Intervals -/

/-- The instants before an optional end. -/
def BeforeEnd (platform : Platform) (stop : Option JsString) (time : Int) : Prop :=
  ∀ text, truthy stop = some text → ∃ limit, platform.dateParse text = some limit ∧ time < limit

/-- The instants at which a member is enabled. -/
def ValidatorMember.EnabledAt (platform : Platform) (member : ValidatorMember) (time : Int) :
    Prop :=
  (∃ enabled, platform.dateParse member.enabledFrom = some enabled ∧ enabled ≤ time) ∧
    BeforeEnd platform member.disabledAt time

/-- The instants in the interval of a set. -/
def ValidatorSet.ValidAt (platform : Platform) (set : ValidatorSet) (time : Int) : Prop :=
  (∃ start, platform.dateParse set.validFrom = some start ∧ start ≤ time) ∧
    BeforeEnd platform set.validUntil time

theorem numberLe_some_right {left : Option Int} {right : Int} :
    numberLe left (some right) = true ↔ ∃ value, left = some value ∧ value ≤ right := by
  cases left with
  | none => simp [numberLe]
  | some value => simp [numberLe]

theorem numberLt_some_left {left : Int} {right : Option Int} :
    numberLt (some left) right = true ↔ ∃ value, right = some value ∧ left < value := by
  cases right with
  | none => simp [numberLt]
  | some value => simp [numberLt]

theorem ValidatorMember.available_iff {member : ValidatorMember} {time : Int} :
    member.available platform time = true ↔ member.EnabledAt platform time := by
  rw [available, EnabledAt, BeforeEnd, Bool.and_eq_true, numberLe_some_right]
  refine and_congr_right fun _ => ?_
  cases truthy member.disabledAt with
  | none => simp
  | some text => simp [numberLt_some_left]

/-! ## What an accepted set is -/

/-- The interval of a member, as far as it was checked. -/
structure ValidatorMember.Meant (platform : Platform) (member : ValidatorMember) : Prop where
  starts : ∃ enabled, platform.dateParse member.enabledFrom = some enabled
  stops : ∀ text, truthy member.disabledAt = some text →
    ∃ disabled, platform.dateParse text = some disabled

structure ValidatorSet.Sound (platform : Platform) (set : ValidatorSet) : Prop where
  threshold : ∃ count : Nat, set.threshold = .ofNat count ∧ 1 ≤ count ∧ count ≤ set.members.length
  ids : (set.members.map ValidatorMember.validatorId).Nodup
  keys : (set.members.map ValidatorMember.key).Nodup
  meant : ∀ member ∈ set.members, member.Meant platform
  achievable : ∃ start, platform.dateParse set.validFrom = some start ∧
    ∀ time ∈ set.boundaries platform start, set.achievableAt platform time = true
  stops : ∀ text, truthy set.validUntil = some text →
    ∃ stop, platform.dateParse text = some stop

/-- The loop over the members accepts distinct identities and distinct keys only. -/
theorem ValidatorMember.assertMembers_ok {ids keys : List JsString}
    {members : List ValidatorMember}
    (accepted : assertMembers platform ids keys members = .ok ()) :
    ((members.map validatorId).Nodup ∧ ∀ member ∈ members, member.validatorId ∉ ids) ∧
      ((members.map keyText).Nodup ∧ ∀ member ∈ members, member.keyText ∉ keys) ∧
      ∀ member ∈ members, member.Meant platform := by
  induction members generalizing ids keys with
  | nil => simp
  | cons member rest ih =>
      rw [assertMembers] at accepted
      split at accepted
      · cases accepted
      split at accepted
      · cases accepted
      split at accepted
      · cases accepted
      rename_i _ newId newKey
      obtain ⟨enabled, parsed, accepted⟩ := ok_of_bind accepted
      obtain ⟨others, meant⟩ : assertMembers platform (member.validatorId :: ids)
          (member.keyText :: keys) rest = .ok () ∧ member.Meant platform := by
        split at accepted
        · rename_i text present
          obtain ⟨disabled, parsedEnd, accepted⟩ := ok_of_bind accepted
          split at accepted
          · cases accepted
          · refine ⟨accepted, ⟨enabled, parseTime_ok parsed⟩, fun other same => ?_⟩
            rw [present] at same
            cases same
            exact ⟨disabled, parseTime_ok parsedEnd⟩
        · rename_i absent
          refine ⟨accepted, ⟨enabled, parseTime_ok parsed⟩, fun other same => ?_⟩
          rw [absent] at same
          cases same
      obtain ⟨⟨distinctIds, freshIds⟩, ⟨distinctKeys, freshKeys⟩, restMeant⟩ := ih others
      simp only [List.mem_cons, not_or] at freshIds freshKeys
      refine ⟨⟨?_, ?_⟩, ⟨?_, ?_⟩, ?_⟩
      · rw [List.map_cons, List.nodup_cons]
        refine ⟨fun repeated => ?_, distinctIds⟩
        obtain ⟨other, later, same⟩ := List.mem_map.mp repeated
        exact (freshIds other later).1 same
      · exact List.forall_mem_cons.mpr ⟨newId, fun other later => (freshIds other later).2⟩
      · rw [List.map_cons, List.nodup_cons]
        refine ⟨fun repeated => ?_, distinctKeys⟩
        obtain ⟨other, later, same⟩ := List.mem_map.mp repeated
        exact (freshKeys other later).1 same
      · exact List.forall_mem_cons.mpr ⟨newKey, fun other later => (freshKeys other later).2⟩
      · exact List.forall_mem_cons.mpr ⟨meant, restMeant⟩

/-- Keys are told apart by their texts, so distinct texts are distinct keys. -/
theorem ValidatorMember.keys_nodup {members : List ValidatorMember}
    (distinct : (members.map keyText).Nodup) : (members.map key).Nodup := by
  refine List.Nodup.of_map (fun key => key.1 ++ js "|" ++ key.2) ?_
  rw [List.map_map]
  exact distinct

theorem ValidatorSet.Sound.of_assertValidatorSet {set : ValidatorSet}
    (accepted : assertValidatorSet platform set = .ok ()) : set.Sound platform := by
  rw [assertValidatorSet] at accepted
  split at accepted
  · cases accepted
  obtain ⟨start, parsed, accepted⟩ := ok_of_bind accepted
  obtain ⟨checked, stops⟩ : assertValidatorSet.members platform set start = .ok () ∧
      ∀ text, truthy set.validUntil = some text →
        ∃ stop, platform.dateParse text = some stop := by
    split at accepted
    · rename_i text present
      obtain ⟨stop, parsedStop, accepted⟩ := ok_of_bind accepted
      split at accepted
      · cases accepted
      · refine ⟨accepted, fun other same => ?_⟩
        rw [present] at same
        cases same
        exact ⟨stop, parseTime_ok parsedStop⟩
    · rename_i absent
      refine ⟨accepted, fun other same => ?_⟩
      rw [absent] at same
      cases same
  rw [assertValidatorSet.members] at checked
  split at checked
  · cases checked
  rename_i inRange
  simp only [Bool.or_eq_true, Bool.not_eq_true', not_or, Bool.not_eq_false,
    Bool.not_eq_true] at inRange
  obtain ⟨⟨safe, positive⟩, most⟩ := inRange
  obtain ⟨_, membersOk, checked⟩ := ok_of_bind checked
  split at checked
  · rename_i achievable
    obtain ⟨⟨ids, _⟩, ⟨keys, _⟩, meant⟩ := ValidatorMember.assertMembers_ok membersOk
    obtain ⟨count, same, least⟩ := JsNumber.eq_ofNat_of_isSafeInteger safe positive
    rw [same, JsNumber.lt_ofNat, decide_eq_false_iff_not] at most
    exact {
      threshold := ⟨count, same, least, by omega⟩
      ids := ids
      keys := ValidatorMember.keys_nodup keys
      meant := meant
      achievable := ⟨start, parseTime_ok parsed, List.all_eq_true.mp achievable⟩
      stops := stops }
  · cases checked

/-! ## The threshold at every instant -/

theorem ValidatorSet.mem_boundaries {set : ValidatorSet} {start time : Int}
    (after : start ≤ time) (before : BeforeEnd platform set.validUntil time)
    (instant : time = start ∨ ∃ member ∈ set.members,
      platform.dateParse member.enabledFrom = some time ∨
        (truthy member.disabledAt).bind platform.dateParse = some time) :
    time ∈ set.boundaries platform start := by
  rw [boundaries, List.mem_filter, List.reduceOption_mem_iff, decide_eq_true after, Bool.true_and]
  constructor
  · rw [List.mem_cons, List.mem_flatMap]
    rcases instant with rfl | ⟨member, listed, starts | stops⟩
    · exact Or.inl rfl
    · exact Or.inr ⟨member, listed, by simp [starts]⟩
    · exact Or.inr ⟨member, listed, by simp [stops]⟩
  · cases present : truthy set.validUntil with
    | none => rfl
    | some text => exact numberLt_some_left.mpr (before text present)

/-- **The threshold can be met at every instant of the interval.** Between one boundary and
the next, no member stops being enabled. -/
theorem ValidatorSet.Sound.enough_enabled {set : ValidatorSet} (sound : set.Sound platform)
    {time : Int} (valid : set.ValidAt platform time) :
    ∃ count : Nat, set.threshold = .ofNat count ∧
      count ≤ set.members.countP (·.available platform time) := by
  obtain ⟨⟨start, parsed, after⟩, before⟩ := valid
  obtain ⟨checkedStart, sameStart, achievable⟩ := sound.achievable
  rw [parsed] at sameStart
  cases sameStart
  obtain ⟨count, threshold, _⟩ := sound.threshold
  refine ⟨count, threshold, ?_⟩
  have early : ∀ other, other ≤ time → BeforeEnd platform set.validUntil other := by
    intro other earlier text present
    obtain ⟨limit, parsedLimit, below⟩ := before text present
    exact ⟨limit, parsedLimit, by omega⟩
  have first : start ∈ (set.boundaries platform start).toFinset.filter (· ≤ time) := by
    rw [Finset.mem_filter, List.mem_toFinset]
    exact ⟨mem_boundaries (le_refl _) (early start after) (Or.inl rfl), after⟩
  -- the latest boundary that is not after the instant
  obtain ⟨last, member, greatest⟩ := Finset.exists_max_image _ (fun instant => instant) ⟨start, first⟩
  rw [Finset.mem_filter, List.mem_toFinset] at member
  obtain ⟨boundary, notAfter⟩ := member
  have enough := achievable last boundary
  rw [achievableAt, threshold, JsNumber.lt_ofNat, Bool.not_eq_true', decide_eq_false_iff_not,
    not_lt] at enough
  refine enough.trans (List.countP_mono_left fun other listed enabled => ?_)
  obtain ⟨⟨since, parsedSince, sinceThen⟩, untilThen⟩ := ValidatorMember.available_iff.mp enabled
  refine ValidatorMember.available_iff.mpr ⟨⟨since, parsedSince, by omega⟩, fun text present => ?_⟩
  obtain ⟨disabled, parsedDisabled, stays⟩ := untilThen text present
  refine ⟨disabled, parsedDisabled, ?_⟩
  by_contra gone
  have startFirst : start ≤ last := greatest start first
  have left : disabled ∈ (set.boundaries platform start).toFinset.filter (· ≤ time) := by
    rw [Finset.mem_filter, List.mem_toFinset]
    refine ⟨mem_boundaries ?_ (early disabled (by omega)) (Or.inr ⟨other, listed, Or.inr ?_⟩),
      by omega⟩
    · omega
    · rw [present, Option.bind_some, parsedDisabled]
  have latest : disabled ≤ last := greatest disabled left
  omega

/-! ## Looking up -/

theorem ValidatorSet.Sound.member_eq_some_iff {set : ValidatorSet} (sound : set.Sound platform)
    {validatorId : JsString} {member : ValidatorMember} :
    set.member validatorId = some member ↔
      member ∈ set.members ∧ member.validatorId = validatorId := by
  rw [ValidatorSet.member]
  constructor
  · intro found
    have listed := List.mem_of_find?_eq_some found
    have named := List.find?_some found
    exact ⟨List.mem_reverse.mp listed, by simpa using named⟩
  · rintro ⟨listed, named⟩
    obtain ⟨other, found⟩ : ∃ other, set.members.reverse.find?
        (fun member => member.validatorId = validatorId) = some other :=
      Option.isSome_iff_exists.mp (List.find?_isSome.mpr
        ⟨member, List.mem_reverse.mpr listed, by simpa using named⟩)
    have otherListed := List.mem_reverse.mp (List.mem_of_find?_eq_some found)
    have otherNamed : other.validatorId = validatorId := by simpa using List.find?_some found
    rw [found, List.inj_on_of_nodup_map sound.ids otherListed listed (otherNamed.trans named.symm)]

namespace ValidatorSetRegistry

theorem sound_of_get {registry : ValidatorSetRegistry platform} {id : JsString}
    {set : ValidatorSet} (known : registry.get id = some set) : set.Sound platform :=
  .of_assertValidatorSet (registry.accepted set (List.mem_of_find?_eq_some known))

/-- A resolved set is the registered one, and the instant lies in its interval. -/
theorem resolve_eq_ok_iff {registry : ValidatorSetRegistry platform}
    {id attestationValidFrom : JsString} {set : ValidatorSet} :
    registry.resolve id attestationValidFrom = .ok set ↔
      registry.get id = some set ∧ ∃ time,
        platform.dateParse attestationValidFrom = some time ∧ set.ValidAt platform time := by
  rw [resolve]
  cases known : registry.get id with
  | none => simp
  | some existing =>
      have sound := sound_of_get known
      obtain ⟨start, parsedStart, _⟩ := sound.achievable
      have startTime : parseTime platform existing.validFrom (js "validator set validFrom") =
          .ok start := by rw [parseTime, parsedStart]
      cases parsed : platform.dateParse attestationValidFrom with
      | none => simp [parseTime, parsed, bind, Except.bind]
      | some time =>
          have now : parseTime platform attestationValidFrom (js "attestation validFrom") =
              .ok time := by rw [parseTime, parsed]
          simp only [now, startTime, bind, Except.bind, Option.some.injEq, exists_eq_left']
          by_cases early : time < start
          · rw [if_pos early, resolve.outside]
            refine ⟨fun returned => (by cases returned), ?_⟩
            rintro ⟨rfl, ⟨other, parsedOther, after⟩, _⟩
            rw [parsedStart] at parsedOther
            cases parsedOther
            omega
          · rw [if_neg early]
            cases present : truthy existing.validUntil with
            | none =>
                simp only [Except.ok.injEq]
                refine ⟨?_, fun valid => valid.1⟩
                rintro rfl
                refine ⟨rfl, ⟨start, parsedStart, by omega⟩, fun text same => ?_⟩
                rw [present] at same
                cases same
            | some text =>
                obtain ⟨stop, parsedStop⟩ := sound.stops text present
                have stopTime : parseTime platform text (js "validator set validUntil") =
                    .ok stop := by rw [parseTime, parsedStop]
                simp only [stopTime]
                by_cases late : time ≥ stop
                · rw [if_pos late, resolve.outside]
                  refine ⟨fun returned => (by cases returned), ?_⟩
                  rintro ⟨rfl, _, before⟩
                  obtain ⟨limit, parsedLimit, below⟩ := before text present
                  rw [parsedStop] at parsedLimit
                  cases parsedLimit
                  omega
                · rw [if_neg late, Except.ok.injEq]
                  refine ⟨?_, fun valid => valid.1⟩
                  rintro rfl
                  refine ⟨rfl, ⟨start, parsedStart, by omega⟩, fun other same => ?_⟩
                  rw [present] at same
                  cases same
                  exact ⟨stop, parsedStop, by omega⟩

/-! ## Registrations -/

/-- A call of `register`; a refused one leaves the registry as it was. -/
def attempt (registry : ValidatorSetRegistry platform) (set : ValidatorSet) :
    ValidatorSetRegistry platform :=
  match registry.register set with
  | .ok (_, next) => next
  | .error _ => registry

/-- The registry after some calls of `register`. -/
def registrations (platform : Platform) (calls : List ValidatorSet) :
    ValidatorSetRegistry platform :=
  calls.foldl attempt empty

theorem before_of_lt {start : Option Int} {time first : Int} {stop : Option JsString}
    (begins : start = some first) (since : first ≤ time) (ends : BeforeEnd platform stop time) :
    intervalsOverlap.before start (endOf platform stop) = true := by
  subst begins
  rw [endOf]
  cases present : truthy stop with
  | none => rfl
  | some text =>
      obtain ⟨limit, parsed, below⟩ := ends text present
      rw [Option.map_some, intervalsOverlap.before, parsed, numberLt, decide_eq_true_eq]
      exact lt_of_le_of_lt since below

/-- Sets that are valid at one instant have overlapping intervals. -/
theorem overlap_of_validAt {set other : ValidatorSet} {time : Int}
    (valid : set.ValidAt platform time) (further : other.ValidAt platform time) :
    intervalsOverlap platform set.validFrom set.validUntil other.validFrom other.validUntil =
      true := by
  obtain ⟨⟨start, begins, since⟩, ends⟩ := valid
  obtain ⟨⟨first, starts, after⟩, stops⟩ := further
  rw [intervalsOverlap, Bool.and_eq_true]
  exact ⟨before_of_lt begins since stops, before_of_lt starts after ends⟩

theorem eq_of_validAt {registry : ValidatorSetRegistry platform} {set other : ValidatorSet}
    {time : Int} (listed : set ∈ registry.sets) (known : other ∈ registry.sets)
    (valid : set.ValidAt platform time) (further : other.ValidAt platform time) : set = other := by
  have symmetric : Std.Symm fun earlier later : ValidatorSet =>
      intervalsOverlap platform later.validFrom later.validUntil earlier.validFrom
        earlier.validUntil = false := by
    refine ⟨fun earlier later apart => ?_⟩
    rw [← apart, intervalsOverlap, intervalsOverlap, Bool.and_comm]
  by_contra different
  have apart := registry.apart.forall listed known different
  rw [overlap_of_validAt further valid] at apart
  cases apart

/-- **Rotation.** Whatever sets were offered, at most one of the registered ones resolves at an
instant; and at every instant in the interval of a registered set, members with distinct
identities and distinct keys, as many as its threshold, are enabled. -/
theorem registrations_resolve (platform : Platform) (calls : List ValidatorSet) :
    (∀ id text set other reading found time,
      (registrations platform calls).resolve id text = .ok set →
      (registrations platform calls).resolve other reading = .ok found →
      platform.dateParse text = some time → platform.dateParse reading = some time →
      id = other ∧ set = found) ∧
    ∀ set ∈ (registrations platform calls).sets, ∀ time, set.ValidAt platform time →
      ∃ (count : Nat) (enabled : List ValidatorMember), set.threshold = .ofNat count ∧
        count ≤ enabled.length ∧ enabled.Sublist set.members ∧
        (∀ member ∈ enabled, member.EnabledAt platform time) ∧
        (enabled.map ValidatorMember.validatorId).Nodup ∧
        (enabled.map ValidatorMember.key).Nodup := by
  generalize registrations platform calls = registry
  constructor
  · intro id text set other reading found time resolved resolves parsed parses
    obtain ⟨known, instant, sameInstant, valid⟩ := resolve_eq_ok_iff.mp resolved
    obtain ⟨listed, second, sameSecond, further⟩ := resolve_eq_ok_iff.mp resolves
    rw [parsed, Option.some.injEq] at sameInstant
    rw [parses, Option.some.injEq] at sameSecond
    subst sameInstant sameSecond
    obtain rfl := eq_of_validAt (List.mem_of_find?_eq_some known)
      (List.mem_of_find?_eq_some listed) valid further
    have named : set.id = id := by simpa using List.find?_some known
    have called : set.id = other := by simpa using List.find?_some listed
    exact ⟨named.symm.trans called, rfl⟩
  · intro set listed time valid
    have sound : set.Sound platform := .of_assertValidatorSet (registry.accepted set listed)
    obtain ⟨count, threshold, enough⟩ := sound.enough_enabled valid
    refine ⟨count, set.members.filter (·.available platform time), threshold, ?_,
      List.filter_sublist, ?_, ?_, ?_⟩
    · rwa [← List.countP_eq_length_filter]
    · intro member kept
      exact ValidatorMember.available_iff.mp (List.mem_filter.mp kept).2
    · exact sound.ids.sublist (List.filter_sublist.map _)
    · exact sound.keys.sublist (List.filter_sublist.map _)

end ValidatorSetRegistry
end InterWeave
