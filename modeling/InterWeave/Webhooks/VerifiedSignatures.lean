import InterWeave.Core.Fingerprints
import InterWeave.Core.NumberTexts
import InterWeave.Text.Separators
import InterWeave.Webhooks.WebhookService

/-! # Verified signatures

`signWebhook` and `verifyWebhook`. The signed text joins the identifier of an event, the timestamp
and the body by dots, which identifiers and bodies may contain, and the receiver takes the timestamp
for a number before it signs it as digits.
-/

namespace InterWeave

/-- The input of `verifyWebhook`. `now` is the time value of the given date or of the current one,
and missing for an invalid date. -/
structure WebhookVerification where
  secret : JsString
  eventId : JsString
  timestamp : JsString
  body : JsString
  signature : JsString
  toleranceSeconds : Option JsNumber
  now : Option Int

/-- `Math.abs(Math.floor(now.getTime() / 1000) - seconds)`. -/
def secondsApart (now seconds : Int) : JsNumber := JsNumber.ofRat (|now / 1000 - seconds| : Int)

namespace WebhookVerification

variable (input : WebhookVerification)

def tolerance : JsNumber := input.toleranceSeconds.getD (.ofNat 300)

/-- The check of the timestamp. Nothing is above the tolerance of an invalid date. -/
def recent : Bool :=
  let seconds := JsNumber.ofText input.timestamp
  seconds.isSafeInteger &&
    !(match input.now with
      | some now => input.tolerance.lt (secondsApart now seconds.toInt)
      | none => false)

end WebhookVerification

/-- `verifyWebhook(input)`. -/
def verifyWebhook (platform : WebhookPlatform) (input : WebhookVerification) :
    Except Thrown Bool :=
  if !input.recent then .ok false
  else do
    let expected ← signWebhook platform input.secret input.eventId input.timestamp input.body
    return decide (expected.encode = input.signature.encode)

/-! ## Messages -/

/-- What a signature is over. -/
structure WebhookMessage where
  eventId : JsString
  timestamp : JsString
  body : JsString
  deriving DecidableEq, Repr

namespace WebhookMessage

def signed (platform : WebhookPlatform) (secret : JsString) (message : WebhookMessage) :
    Except Thrown JsString :=
  signWebhook platform secret message.eventId message.timestamp message.body

/-- The message that is presented to the receiver. -/
def presented (message : WebhookMessage) (secret signature : JsString)
    (toleranceSeconds : Option JsNumber) (now : Option Int) : WebhookVerification where
  secret := secret
  eventId := message.eventId
  timestamp := message.timestamp
  body := message.body
  signature := signature
  toleranceSeconds := toleranceSeconds
  now := now

def text (message : WebhookMessage) : JsString :=
  js "v1." ++ message.eventId ++ js "." ++ message.timestamp ++ js "." ++ message.body

variable (first second : WebhookMessage)

/-- The identifier of the second message goes on, in UTF-8, with the timestamp of the first, and
with the start of its body, if the timestamp of the second is not the whole rest of it. -/
def Moved : Prop :=
  Text.ReadsOn 46 first.eventId.encode first.timestamp.encode first.body.encode
    second.eventId.encode second.timestamp.encode second.body.encode

/-- The messages differ in lone surrogates only, which UTF-8 replaces. -/
structure SurrogatesDiffer : Prop where
  eventId : first.eventId.encode = second.eventId.encode
  timestamp : first.timestamp = second.timestamp
  body : first.body.encode = second.body.encode
  differ : first ≠ second

/-- Neither message is read into the other. -/
structure Apart : Prop where
  forth : ¬ first.Moved second
  back : ¬ second.Moved first
  written : ¬ first.SurrogatesDiffer second

end WebhookMessage

/-- HMAC-SHA-256 under a secret: a function of the bytes, without collisions, in hexadecimal. -/
structure WebhookPlatform.Keyed (platform : WebhookPlatform) (secret : JsString) : Prop where
  bytes : ∀ text other : JsString, text.encode = other.encode →
    platform.hmacSha256Hex secret text = platform.hmacSha256Hex secret other
  collisionFree : ∀ text other, platform.hmacSha256Hex secret text =
    platform.hmacSha256Hex secret other → text.encode = other.encode
  ascii : ∀ text, ∀ unit ∈ platform.hmacSha256Hex secret text, unit.toNat < 0x80

section Verification

variable {platform : WebhookPlatform} {secret : JsString} {first second : WebhookMessage}

theorem isDigits_bytes {timestamp : JsString} (digits : JsString.isDigits timestamp = true) :
    46 ∉ timestamp.encode ∧ ∀ unit ∈ timestamp, unit.toNat < 0x80 := by
  rw [JsString.isDigits, Bool.and_eq_true, List.all_eq_true] at digits
  have bounds : ∀ unit ∈ timestamp, 48 ≤ unit.toNat ∧ unit.toNat ≤ 57 :=
    fun unit member => JsNumber.isDecimal_bounds (digits.2 unit member)
  have ascii : ∀ unit ∈ timestamp, unit.toNat < 0x80 :=
    fun unit member => by have := bounds unit member; omega
  have bytes := JsString.encode_ascii ascii []
  rw [List.append_nil, JsString.encode, List.append_nil] at bytes
  refine ⟨?_, ascii⟩
  rw [bytes, List.mem_map]
  rintro ⟨unit, member, dot⟩
  have value : unit.toNat.toUInt8.toNat = unit.toNat :=
    Nat.mod_eq_of_lt (by have := bounds unit member; omega)
  simp only [← UInt8.toNat_inj, value, UInt8.reduceToNat] at dot
  have := bounds unit member
  omega

theorem signWebhook_ok_iff {eventId timestamp body signature : JsString} :
    signWebhook platform secret eventId timestamp body = .ok signature ↔
      (secret ≠ [] ∧ eventId ≠ [] ∧ JsString.isDigits timestamp = true) ∧
        signature = js "v1=" ++ platform.hmacSha256Hex secret
          (WebhookMessage.text ⟨eventId, timestamp, body⟩) := by
  rw [signWebhook]
  split
  · rename_i invalid
    simp only [Bool.or_eq_true, List.isEmpty_iff, Bool.not_eq_true'] at invalid
    constructor
    · intro signed
      cases signed
    · rintro ⟨⟨secretSome, eventSome, digits⟩, _⟩
      rcases invalid with (none | none) | notDigits
      · exact (secretSome none).elim
      · exact (eventSome none).elim
      · rw [digits] at notDigits
        cases notDigits
  · rename_i valid
    simp only [Bool.or_eq_true, List.isEmpty_iff, Bool.not_eq_true', not_or, Bool.not_eq_false]
      at valid
    rw [and_iff_right ⟨valid.1.1, valid.1.2, valid.2⟩, Except.ok.injEq, eq_comm]
    rfl

theorem WebhookMessage.encode_text (message : WebhookMessage) : message.text.encode =
    (js "v1").encode ++ 46 :: (message.eventId.encode ++
      46 :: (message.timestamp.encode ++ 46 :: message.body.encode)) := by
  have dot : js "." = [46] := by decide
  have start : js "v1." = js "v1" ++ [46] := by decide
  have joined : ∀ value rest : JsString,
      JsString.encode (value ++ 46 :: rest) = value.encode ++ 46 :: rest.encode :=
    JsString.encode_separated (by decide)
  rw [text, dot, start]
  simp only [List.append_assoc, List.cons_append, List.nil_append, joined]

/-- The ways in which messages have the same bytes. -/
theorem WebhookMessage.encode_text_eq_iff (digits : JsString.isDigits first.timestamp = true)
    (others : JsString.isDigits second.timestamp = true) :
    first.text.encode = second.text.encode ↔
      (first.eventId.encode = second.eventId.encode ∧ first.timestamp = second.timestamp ∧
        first.body.encode = second.body.encode) ∨ first.Moved second ∨ second.Moved first := by
  rw [encode_text, encode_text, List.append_cancel_left_eq, List.cons.injEq, and_iff_right rfl]
  constructor
  · intro same
    rcases Text.split_middle (isDigits_bytes digits).1 (isDigits_bytes others).1 same with
      same | moved | moved
    · exact .inl ⟨same.1, JsString.eq_of_encode_ascii (isDigits_bytes digits).2 same.2.1, same.2.2⟩
    · exact .inr (.inl moved)
    · exact .inr (.inr moved)
  · rintro (⟨eventId, timestamp, body⟩ | moved | moved)
    · rw [eventId, timestamp, body]
    · exact moved.joined
    · exact moved.joined.symm

theorem verifyWebhook_accepts_iff (keyed : platform.Keyed secret) {input : WebhookVerification}
    (own : input.secret = secret) : verifyWebhook platform input = .ok true ↔
      input.recent = true ∧ signWebhook platform input.secret input.eventId input.timestamp
        input.body = .ok input.signature := by
  have ascii : ∀ text, ∀ unit ∈ js "v1=" ++ platform.hmacSha256Hex secret text,
      unit.toNat < 0x80 := by
    intro text unit member
    rcases List.mem_append.mp member with start | hashed
    · exact (JsString.ascii_of_all (by decide) unit start).2
    · exact keyed.ascii text unit hashed
  rw [verifyWebhook]
  split
  · rename_i old
    rw [Bool.not_eq_true'] at old
    simp [old]
  · rename_i recent
    rw [Bool.not_eq_true', Bool.not_eq_false] at recent
    rw [and_iff_right recent]
    cases signs : signWebhook platform input.secret input.eventId input.timestamp input.body with
    | error error =>
        change (Except.error error : Except Thrown Bool) = _ ↔ _
        simp
    | ok expected =>
        change (Except.ok _ : Except Thrown Bool) = _ ↔ _
        rw [Except.ok.injEq, decide_eq_true_eq, Except.ok.injEq]
        obtain ⟨_, same⟩ := signWebhook_ok_iff.mp signs
        rw [own] at same
        exact ⟨JsString.eq_of_encode_ascii (same ▸ ascii _), fun equal => by rw [equal]⟩

/-- Signatures under one secret are the same exactly for the same bytes. -/
theorem WebhookMessage.signed_eq_iff (keyed : platform.Keyed secret) {signature other : JsString}
    (signs : first.signed platform secret = .ok signature)
    (signed : second.signed platform secret = .ok other) :
    signature = other ↔ first.text.encode = second.text.encode := by
  rw [(signWebhook_ok_iff.mp signs).2, (signWebhook_ok_iff.mp signed).2, List.append_cancel_left_eq]
  exact ⟨keyed.collisionFree _ _, keyed.bytes _ _⟩

/-- The digits of the timestamp are within the tolerance. -/
def WebhookVerification.Within (input : WebhookVerification) : Prop :=
  ∃ now, input.now = some now ∧
    (secondsApart now (decimalValue input.timestamp)).le input.tolerance = true

/-- The receiver decides on the input. Only signable inputs pass the check of the timestamp, and a
signature is judged under a date and a tolerance that are numbers, and by a timestamp that is a safe
integer if it is within the tolerance. -/
structure WebhookVerification.Judged (platform : WebhookPlatform) (input : WebhookVerification) :
    Prop where
  signable : input.recent = true →
    input.secret ≠ [] ∧ input.eventId ≠ [] ∧ JsString.isDigits input.timestamp = true
  clocked : signWebhook platform input.secret input.eventId input.timestamp input.body =
    .ok input.signature → decimalValue input.timestamp < 2 ^ 53 →
      input.now ≠ none ∧ input.tolerance ≠ .nan
  counted : signWebhook platform input.secret input.eventId input.timestamp input.body =
    .ok input.signature → 2 ^ 53 ≤ decimalValue input.timestamp → ¬ input.Within

namespace WebhookVerification

variable {input : WebhookVerification}

/-- The check of a timestamp of digits. -/
theorem recent_digits (digits : JsString.isDigits input.timestamp = true) : input.recent =
    (decide (decimalValue input.timestamp < 2 ^ 53) &&
      !(match input.now with
        | some now => input.tolerance.lt (secondsApart now (decimalValue input.timestamp))
        | none => false)) := by
  rw [recent, JsNumber.ofText_digits digits]
  by_cases small : decimalValue input.timestamp < 2 ^ 53
  · have safe : (JsNumber.ofNat (decimalValue input.timestamp)).isSafeInteger = true := by
      simp only [JsNumber.isSafeInteger, JsNumber.ofNat, Rat.den_natCast, Rat.num_natCast,
        Int.natAbs_natCast, decide_true, Bool.true_and]
      apply decide_eq_true
      omega
    have value : (JsNumber.ofNat (decimalValue input.timestamp)).toInt =
        decimalValue input.timestamp := Rat.num_natCast _
    rw [JsNumber.ofRat_natCast small, safe, value, decide_eq_true small]
  · have large : (2 : Rat) ^ 53 ≤ decimalValue input.timestamp := by
      exact_mod_cast Nat.not_lt.mp small
    rw [JsNumber.ofRat_unsafe large, decide_eq_false small, Bool.false_and, Bool.false_and]

theorem recent_iff_within (digits : JsString.isDigits input.timestamp = true)
    (small : decimalValue input.timestamp < 2 ^ 53) (dated : input.now ≠ none)
    (number : input.tolerance ≠ .nan) : input.recent = true ↔ input.Within := by
  obtain ⟨now, known⟩ := Option.ne_none_iff_exists'.mp dated
  have compare := JsNumber.not_lt_eq_le
    (JsNumber.ofRat_ne_nan ((|now / 1000 - decimalValue input.timestamp| : Int) : Rat)) number
  rw [recent_digits digits, decide_eq_true small, Bool.true_and, known, Within, known]
  change (!input.tolerance.lt (secondsApart now (decimalValue input.timestamp))) =
    (secondsApart now (decimalValue input.timestamp)).le input.tolerance at compare
  rw [compare]
  constructor
  · exact fun within => ⟨now, rfl, within⟩
  · rintro ⟨_, same, within⟩
    cases same
    exact within

/-- Without a date or a tolerance every safe timestamp passes, and none is within it. -/
theorem recent_unclocked (digits : JsString.isDigits input.timestamp = true)
    (small : decimalValue input.timestamp < 2 ^ 53)
    (unclocked : ¬ (input.now ≠ none ∧ input.tolerance ≠ .nan)) :
    input.recent = true ∧ ¬ input.Within := by
  rw [recent_digits digits, decide_eq_true small, Bool.true_and, Within]
  rw [not_and_or, not_not, not_not] at unclocked
  rcases unclocked with undated | unknown
  · rw [undated]
    exact ⟨rfl, fun ⟨_, dated, _⟩ => Option.some_ne_none _ dated.symm⟩
  · rw [unknown]
    constructor
    · cases input.now <;> rfl
    · rintro ⟨now, _, within⟩
      cases apart : secondsApart now (decimalValue input.timestamp) <;>
        rw [apart] at within <;> cases within

theorem not_recent (digits : JsString.isDigits input.timestamp = true)
    (large : 2 ^ 53 ≤ decimalValue input.timestamp) : input.recent = false := by
  rw [recent_digits digits, decide_eq_false (Nat.not_lt.mpr large), Bool.false_and]

end WebhookVerification

/-- The receiver decides exactly on the inputs that it judges. -/
theorem verifyWebhook_decides_iff (keyed : platform.Keyed secret) {input : WebhookVerification}
    (own : input.secret = secret) :
    (∃ accepted, verifyWebhook platform input = .ok accepted ∧
      (accepted = true ↔ JsString.isDigits input.timestamp = true ∧ input.Within ∧
        signWebhook platform input.secret input.eventId input.timestamp input.body =
          .ok input.signature)) ↔ input.Judged platform := by
  have accepts := verifyWebhook_accepts_iff keyed own
  constructor
  · rintro ⟨accepted, returned, decides⟩
    have decided : accepted = true ↔ verifyWebhook platform input = .ok true := by
      rw [returned, Except.ok.injEq]
    rw [decided, accepts] at decides
    refine ⟨fun recent => ?_, fun signs small => ?_, fun signs large within => ?_⟩
    · rw [verifyWebhook, recent] at returned
      cases signs : signWebhook platform input.secret input.eventId input.timestamp input.body with
      | error error =>
          rw [signs] at returned
          cases returned
      | ok expected => exact (signWebhook_ok_iff.mp signs).1
    · have digits := (signWebhook_ok_iff.mp signs).1.2.2
      by_contra unclocked
      obtain ⟨recent, outside⟩ := input.recent_unclocked digits small unclocked
      exact outside (decides.mp ⟨recent, signs⟩).2.1
    · have digits := (signWebhook_ok_iff.mp signs).1.2.2
      have recent := (decides.mpr ⟨digits, within, signs⟩).1
      rw [input.not_recent digits large] at recent
      cases recent
  · intro judged
    have agree : signWebhook platform input.secret input.eventId input.timestamp input.body =
        .ok input.signature → (input.recent = true ↔ input.Within) := by
      intro signs
      have digits := (signWebhook_ok_iff.mp signs).1.2.2
      by_cases small : decimalValue input.timestamp < 2 ^ 53
      · obtain ⟨dated, number⟩ := judged.clocked signs small
        exact input.recent_iff_within digits small dated number
      · rw [Nat.not_lt] at small
        rw [input.not_recent digits small]
        exact ⟨fun never => Bool.noConfusion never, fun within =>
          (judged.counted signs small within).elim⟩
    obtain ⟨accepted, returned⟩ : ∃ accepted, verifyWebhook platform input = .ok accepted := by
      rw [verifyWebhook]
      split
      · exact ⟨false, rfl⟩
      · rename_i recent
        rw [Bool.not_eq_true', Bool.not_eq_false] at recent
        rw [signWebhook_ok_iff.mpr ⟨judged.signable recent, rfl⟩]
        exact ⟨_, rfl⟩
    have decided : accepted = true ↔ verifyWebhook platform input = .ok true := by
      rw [returned, Except.ok.injEq]
    refine ⟨accepted, returned, ?_⟩
    rw [decided, accepts]
    constructor
    · rintro ⟨recent, signs⟩
      exact ⟨(signWebhook_ok_iff.mp signs).1.2.2, (agree signs).mp recent, signs⟩
    · rintro ⟨_, within, signs⟩
      exact ⟨(agree signs).mpr within, signs⟩

/-- Messages that are apart have signatures of their own. -/
theorem verifyWebhook_binds_iff (keyed : platform.Keyed secret) {signature other : JsString}
    (signs : first.signed platform secret = .ok signature)
    (signed : second.signed platform secret = .ok other) (toleranceSeconds : Option JsNumber)
    (now : Option Int) :
    (verifyWebhook platform (second.presented secret signature toleranceSeconds now) = .ok true →
      first = second) ↔
    ((second.presented secret signature toleranceSeconds now).recent = true →
      first.Apart second) := by
  have same := WebhookMessage.signed_eq_iff keyed signs signed
  have digits := (signWebhook_ok_iff.mp signs).1.2.2
  have others := (signWebhook_ok_iff.mp signed).1.2.2
  have accepts : verifyWebhook platform (second.presented secret signature toleranceSeconds now) =
      .ok true ↔ (second.presented secret signature toleranceSeconds now).recent = true ∧
        first.text.encode = second.text.encode := by
    rw [verifyWebhook_accepts_iff keyed rfl, ← same]
    refine and_congr_right fun _ => ?_
    change second.signed platform secret = .ok signature ↔ _
    rw [signed, Except.ok.injEq, eq_comm]
  rw [accepts, and_imp]
  refine imp_congr_right fun _ => ?_
  rw [WebhookMessage.encode_text_eq_iff digits others]
  constructor
  · intro binds
    refine ⟨fun moved => ?_, fun moved => ?_, fun written => ?_⟩
    · exact moved.ne (congrArg (fun message => message.eventId.encode) (binds (.inr (.inl moved))))
    · exact moved.ne
        (congrArg (fun message => message.eventId.encode) (binds (.inr (.inr moved))).symm)
    · exact written.differ (binds (.inl ⟨written.eventId, written.timestamp, written.body⟩))
  · rintro apart (⟨eventId, timestamp, body⟩ | moved | moved)
    · by_contra differ
      exact apart.written ⟨eventId, timestamp, body, differ⟩
    · exact (apart.forth moved).elim
    · exact (apart.back moved).elim

/-- **Verified signatures.** A signature that a receiver accepts for a second message is of no other
message, exactly if the messages are apart or the timestamp is not recent; and the receiver decides
on an input, by its digits, its time and its signature, exactly if it judges it. -/
theorem verifyWebhook_binds (keyed : platform.Keyed secret) :
    (∀ (first second : WebhookMessage) (signature other : JsString),
      first.signed platform secret = .ok signature → second.signed platform secret = .ok other →
      ∀ (toleranceSeconds : Option JsNumber) (now : Option Int),
        (verifyWebhook platform (second.presented secret signature toleranceSeconds now) =
          .ok true → first = second) ↔
        ((second.presented secret signature toleranceSeconds now).recent = true →
          first.Apart second)) ∧
    ∀ input : WebhookVerification, input.secret = secret →
      ((∃ accepted, verifyWebhook platform input = .ok accepted ∧
        (accepted = true ↔ JsString.isDigits input.timestamp = true ∧ input.Within ∧
          signWebhook platform input.secret input.eventId input.timestamp input.body =
            .ok input.signature)) ↔ input.Judged platform) :=
  ⟨fun _ _ _ _ signs signed toleranceSeconds now =>
    verifyWebhook_binds_iff keyed signs signed toleranceSeconds now,
    fun _ own => verifyWebhook_decides_iff keyed own⟩

end Verification

namespace SplitMessages

/-- The bytes of the secret and of the text, rendered. -/
def platform : WebhookPlatform where
  toPlatform := isoPlatform
  hmacSha256Hex secret text := isoPlatform.sha256Hex (secret.encode ++ text.encode)

theorem keyed (secret : JsString) : platform.Keyed secret := by
  refine ⟨fun text other same => ?_, fun text other same => ?_, fun text unit member => ?_⟩
  · exact congrArg (fun bytes => isoPlatform.sha256Hex (secret.encode ++ bytes)) same
  · exact List.append_cancel_left (isoPlatform_sha256Hex_injective same)
  · have digits : ∀ value : Fin 16, (JsString.hexDigit value.val).toNat < 0x80 := by decide
    obtain ⟨byte, _, digit⟩ := List.mem_flatMap.mp member
    simp only [List.mem_cons, List.not_mem_nil, or_false] at digit
    rcases digit with rfl | rfl
    · exact digits ⟨byte.toNat / 16, by have := byte.toNat_lt; omega⟩
    · exact digits ⟨byte.toNat % 16, by omega⟩

/-- An event whose identifier ends in a number. -/
def sent : WebhookMessage where
  eventId := js "IW:WEBHOOK_EVENT:one.1786622460"
  timestamp := js "1786622460"
  body := js "\x7b\x7d"

/-- The same bytes, read as another event. -/
def reread : WebhookMessage where
  eventId := js "IW:WEBHOOK_EVENT:one"
  timestamp := js "1786622460"
  body := js "1786622460.\x7b\x7d"

def foreign : WebhookMessage := { sent with eventId := js "other" }

/-- 2026-08-13T12:01:00.000Z. -/
def now : Int := 1786622460000

def signature : JsString :=
  js "v1=" ++ platform.hmacSha256Hex (js "secret") sent.text

theorem recent (message : WebhookMessage) (sign : JsString)
    (stamped : message.timestamp = js "1786622460") :
    (message.presented (js "secret") sign none (some now)).recent = true := by
  have digits : JsString.isDigits (js "1786622460") = true := by decide
  have value : decimalValue (js "1786622460") = 1786622460 := by decide
  have apart : secondsApart now 1786622460 = .ofNat 0 := @JsNumber.ofRat_natCast 0 (by decide)
  rw [WebhookVerification.recent_digits (by rw [← digits, ← stamped]; rfl)]
  change (decide (decimalValue message.timestamp < 2 ^ 53) &&
    !(JsNumber.ofNat 300).lt (secondsApart now (decimalValue message.timestamp))) = true
  rw [stamped, value]
  change (decide (1786622460 < 2 ^ 53) &&
    !(JsNumber.ofNat 300).lt (secondsApart now 1786622460)) = true
  rw [apart, JsNumber.lt_ofNat]
  rfl

/-- A sign before the digits keeps the number. -/
theorem signed_number :
    ({ sent with timestamp := js "+1786622460" }.presented (js "secret") signature none
      (some now)).recent = true := by
  have number : JsNumber.ofText (js "+1786622460") = .ofNat 1786622460 := by
    have trimmed : trim (js "+1786622460") = 43 :: js "1786622460" := by decide
    have value : decimalValue (js "1786622460") = 1786622460 := by decide
    rw [JsNumber.ofText, trimmed, JsNumber.literal, if_pos (by decide),
      JsNumber.decimalLiteral_digits (by decide), value]
    exact JsNumber.ofRat_natCast (by decide)
  have safe : (JsNumber.ofNat 1786622460).isSafeInteger = true := by decide
  have apart : secondsApart now 1786622460 = .ofNat 0 := @JsNumber.ofRat_natCast 0 (by decide)
  change ((JsNumber.ofText (js "+1786622460")).isSafeInteger &&
    !(JsNumber.ofNat 300).lt (secondsApart now (JsNumber.ofText (js "+1786622460")).toInt)) = true
  rw [number, safe]
  change (!(JsNumber.ofNat 300).lt (secondsApart now 1786622460)) = true
  rw [apart, JsNumber.lt_ofNat]
  rfl

/-- A signature is accepted for another event and body, and a timestamp with a sign is refused by an
error. -/
theorem reread_accepted :
    sent.signed platform (js "secret") = .ok signature ∧
    verifyWebhook platform (reread.presented (js "secret") signature none (some now)) = .ok true ∧
    sent.eventId ≠ reread.eventId ∧ sent.body ≠ reread.body ∧
    verifyWebhook platform ({ sent with timestamp := js "+1786622460" }.presented (js "secret")
      signature none (some now)) =
        .error (.registryError .invalidArgument (js "webhook signing inputs are invalid")) := by
  have signs : sent.signed platform (js "secret") = .ok signature :=
    signWebhook_ok_iff.mpr ⟨by decide, rfl⟩
  have same : reread.text = sent.text := by decide +kernel
  refine ⟨signs, ?_, by decide, by decide, ?_⟩
  · apply (verifyWebhook_accepts_iff (keyed (js "secret")) rfl).mpr
    refine ⟨recent reread signature rfl, signWebhook_ok_iff.mpr ⟨by decide, ?_⟩⟩
    exact congrArg (fun text => js "v1=" ++ platform.hmacSha256Hex (js "secret") text) same.symm
  · rw [verifyWebhook, signed_number]
    rfl

/-- A foreign event is refused under the signature of the message. -/
theorem foreign_refused :
    verifyWebhook platform (foreign.presented (js "secret") signature none (some now)) ≠
      .ok true := by
  have signs : sent.signed platform (js "secret") = .ok signature :=
    signWebhook_ok_iff.mpr ⟨by decide, rfl⟩
  have signed : foreign.signed platform (js "secret") =
      .ok (js "v1=" ++ platform.hmacSha256Hex (js "secret") foreign.text) :=
    signWebhook_ok_iff.mpr ⟨by decide, rfl⟩
  intro accepted
  have apart : sent.Apart foreign := by
    have start : sent.eventId.encode.head? = some 73 := by decide
    have other : foreign.eventId.encode.head? = some 111 := by decide
    refine ⟨fun moved => ?_, fun moved => ?_, fun written => ?_⟩
    · obtain ⟨rest, longer⟩ := moved.exists_rest
      rw [longer, List.head?_append, start] at other
      cases other
    · obtain ⟨rest, longer⟩ := moved.exists_rest
      rw [longer, List.head?_append, other] at start
      cases start
    · exact absurd written.eventId (by decide)
  have same := ((verifyWebhook_binds (keyed (js "secret"))).1 sent foreign _ _ signs signed none
    (some now)).mpr (fun _ => apart) accepted
  exact absurd same (by decide)

end SplitMessages

end InterWeave
