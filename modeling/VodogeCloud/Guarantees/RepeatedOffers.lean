import VodogeCloud.Source.ChannelAttempts

/-!
# Which URLs are offered an event again

The unit of a retry is the channel: each attempt offers the event to every URL of the list,
and another attempt follows only one in which a URL failed.
-/

set_option autoImplicit false

namespace VodogeCloud.Guarantees.RepeatedOffers

open VodogeCloud.Source.Settings (Document)
open VodogeCloud.Source.NotifyChannels VodogeCloud.Source.ChannelAttempts

variable {channel : UrlChannel} {config : Document} {policy : RetryPolicy} {around : Surroundings}

/-! ## One send -/

theorem failureOf_isSome (channel : UrlChannel) (offer : Offer) :
    (failureOf channel offer).isSome = !offer.answer.accepted := by
  unfold failureOf Answer.accepted
  cases offer.answer with
  | failed reason => cases channel <;> rfl
  | status code =>
    dsimp only
    by_cases low : code < 300
    · rw [if_pos low, decide_eq_true low]
      cases channel <;> rfl
    · rw [if_neg low, decide_eq_false low]
      cases channel <;> rfl

theorem offersOf_urls (tries : Nat) (urls : List String) (answers : Nat → Answer) :
    (offersOf tries urls answers).map Offer.url = urls := by
  unfold offersOf
  rw [List.map_map]
  exact List.zipIdx_map_fst _ _

theorem offersOf_tries {tries : Nat} {urls : List String} {answers : Nat → Answer} {offer : Offer}
    (member : offer ∈ offersOf tries urls answers) : offer.tries = tries := by
  obtain ⟨entry, _, rfl⟩ := List.mem_map.mp member
  rfl

theorem offersOf_positions (tries : Nat) (urls : List String) (answers : Nat → Answer) :
    (offersOf tries urls answers).Pairwise fun first second => first.position < second.position := by
  have positions : (offersOf tries urls answers).map Offer.position = List.range' 0 urls.length := by
    unfold offersOf
    rw [List.map_map]
    exact List.zipIdx_map_snd _ _
  have sorted : (List.range' 0 urls.length).Pairwise (· < ·) := List.pairwise_lt_range'
  rw [← positions, List.pairwise_map] at sorted
  exact sorted

/-- What one send does: nothing at all, or every URL once, and an error when one of them failed. -/
inductive Sent (config : Document) (tries : Nat) (answers : Nat → Answer) :
    List Offer × Except SendError Unit → Prop
  | refused : Sent config tries answers ([], .error .notConfigured)
  | landed : Sent config tries answers (offersOf tries (asStrings config "urls") answers, .ok ())
  | failed {text : String}
      (lost : ∃ offer ∈ offersOf tries (asStrings config "urls") answers, offer.answer.accepted = false) :
      Sent config tries answers (offersOf tries (asStrings config "urls") answers, .error (.failures text))

theorem send_cases (channel : UrlChannel) (config : Document) (tries : Nat) (answers : Nat → Answer) :
    Sent config tries answers (send channel config tries answers) := by
  unfold send
  split
  · exact .refused
  dsimp only
  split
  · exact .landed
  case _ first rest failures =>
    refine .failed ?_
    have member : first ∈ (offersOf tries (asStrings config "urls") answers).filterMap (failureOf channel) := by
      rw [failures]
      exact List.mem_cons_self
    obtain ⟨offer, member, reason⟩ := List.mem_filterMap.mp member
    have lost := failureOf_isSome channel offer
    rw [reason] at lost
    exact ⟨offer, member, by simpa using lost.symm⟩

/-! ## All attempts -/

/-- Why an offer comes after another: the list has its URL further on, or every attempt from the
first one's on had a URL that failed. -/
def Explained (offers : List Offer) (first second : Offer) : Prop :=
  (first.tries = second.tries ∧ first.position < second.position) ∨
    (first.tries < second.tries ∧ ∀ tries, first.tries ≤ tries → tries < second.tries →
      ∃ offer ∈ offers, offer.tries = tries ∧ offer.answer.accepted = false)

theorem Explained.mono {offers wider : List Offer} (all : offers ⊆ wider) {first second : Offer}
    (explained : Explained offers first second) : Explained wider first second := by
  rcases explained with same | ⟨later, lost⟩
  · exact .inl same
  · refine .inr ⟨later, fun tries from_ to_ => ?_⟩
    obtain ⟨offer, member, facts⟩ := lost tries from_ to_
    exact ⟨offer, all member, facts⟩

/-- The offers of the attempts from a try on. -/
structure Orderly (config : Document) (tries : Nat) (offers : List Offer) : Prop where
  later : ∀ offer ∈ offers, tries ≤ offer.tries
  whole : ∀ offer ∈ offers,
    (offers.filter fun other => other.tries = offer.tries).map Offer.url = asStrings config "urls"
  lost : ∀ offer ∈ offers, ∀ earlier, tries ≤ earlier → earlier < offer.tries →
    ∃ other ∈ offers, other.tries = earlier ∧ other.answer.accepted = false
  pairs : offers.Pairwise (Explained offers)

theorem orderly_nil (config : Document) (tries : Nat) : Orderly config tries [] where
  later := by intro offer member; cases member
  whole := by intro offer member; cases member
  lost := by intro offer member; cases member
  pairs := List.Pairwise.nil

theorem filter_tries_self {tries : Nat} {offers : List Offer} (same : ∀ offer ∈ offers, offer.tries = tries) :
    (offers.filter fun other => other.tries = tries) = offers := by
  rw [List.filter_eq_self]
  intro offer member
  exact decide_eq_true (same offer member)

theorem filter_tries_none {tries : Nat} {offers : List Offer} (other : ∀ offer ∈ offers, offer.tries ≠ tries) :
    (offers.filter fun other => other.tries = tries) = [] := by
  rw [List.filter_eq_nil_iff]
  intro offer member same
  exact other offer member (of_decide_eq_true same)

/-- One attempt by itself. -/
theorem orderly_send (config : Document) (tries : Nat) (answers : Nat → Answer) :
    Orderly config tries (offersOf tries (asStrings config "urls") answers) where
  later := fun offer member => (offersOf_tries member).ge
  whole := by
    intro offer member
    rw [offersOf_tries member, filter_tries_self fun other => offersOf_tries, offersOf_urls]
  lost := by
    intro offer member earlier from_ to_
    rw [offersOf_tries member] at to_
    exact absurd to_ (Nat.not_lt.mpr from_)
  pairs := by
    refine (offersOf_positions tries _ answers).imp_of_mem ?_
    intro first second memberFirst memberSecond further
    exact .inl ⟨(offersOf_tries memberFirst).trans (offersOf_tries memberSecond).symm, further⟩

/-- An attempt in which a URL failed, and the attempts after it. -/
theorem orderly_append {config : Document} {tries : Nat} {answers : Nat → Answer} {rest : List Offer}
    (lost : ∃ offer ∈ offersOf tries (asStrings config "urls") answers, offer.answer.accepted = false)
    (orderly : Orderly config (tries + 1) rest) :
    Orderly config tries (offersOf tries (asStrings config "urls") answers ++ rest) := by
  obtain ⟨failed, memberFailed, refused⟩ := lost
  have own := orderly_send config tries answers
  generalize offers : offersOf tries (asStrings config "urls") answers = head at *
  have same : ∀ offer ∈ head, offer.tries = tries := by
    rw [← offers]
    exact fun offer => offersOf_tries
  have wider : rest ⊆ head ++ rest := List.subset_append_right head rest
  -- Every attempt from this one on has a failed URL: this one's, or what the rest knows.
  have spread : ∀ offer ∈ rest, ∀ earlier, tries ≤ earlier → earlier < offer.tries →
      ∃ other ∈ head ++ rest, other.tries = earlier ∧ other.answer.accepted = false := by
    intro offer member earlier from_ to_
    rcases Nat.lt_or_ge tries earlier with after | until_
    · obtain ⟨other, memberOther, facts⟩ := orderly.lost offer member earlier after to_
      exact ⟨other, wider memberOther, facts⟩
    · refine ⟨failed, List.mem_append_left rest memberFailed, ?_, refused⟩
      rw [same failed memberFailed]
      exact Nat.le_antisymm from_ until_
  refine ⟨?_, ?_, ?_, ?_⟩
  · intro offer member
    rcases List.mem_append.mp member with inHead | inRest
    · exact own.later offer inHead
    · exact (Nat.le_succ tries).trans (orderly.later offer inRest)
  · intro offer member
    rw [List.filter_append, List.map_append]
    rcases List.mem_append.mp member with inHead | inRest
    · have none_ : ∀ other ∈ rest, other.tries ≠ offer.tries := by
        intro other memberOther equal
        have above := orderly.later other memberOther
        rw [equal, same offer inHead] at above
        exact Nat.not_succ_le_self tries above
      rw [own.whole offer inHead, filter_tries_none none_]
      exact List.append_nil _
    · have none_ : ∀ other ∈ head, other.tries ≠ offer.tries := by
        intro other memberOther equal
        have above := orderly.later offer inRest
        rw [← equal, same other memberOther] at above
        exact Nat.not_succ_le_self tries above
      rw [filter_tries_none none_, orderly.whole offer inRest]
      rfl
  · intro offer member earlier from_ to_
    rcases List.mem_append.mp member with inHead | inRest
    · rw [same offer inHead] at to_
      exact absurd to_ (Nat.not_lt.mpr from_)
    · exact spread offer inRest earlier from_ to_
  · refine List.pairwise_append.mpr ⟨?_, ?_, ?_⟩
    · exact own.pairs.imp fun explained => explained.mono (List.subset_append_left head rest)
    · exact orderly.pairs.imp fun explained => explained.mono wider
    · intro first inHead second inRest
      have first_tries := same first inHead
      have second_tries := orderly.later second inRest
      refine .inr ⟨by omega, fun earlier from_ to_ => ?_⟩
      exact spread second inRest earlier (first_tries ▸ from_) to_

/-- Induction on the attempts left; another one follows only an attempt that lost a URL. -/
theorem attemptFrom_orderly (left tries : Nat) (delay : Int) :
    Orderly config tries (attemptFrom channel config policy around left tries delay).offers := by
  induction left generalizing tries delay with
  | zero =>
    unfold attemptFrom
    have sent := send_cases channel config tries (around.answers tries)
    generalize send channel config tries (around.answers tries) = result at sent
    cases sent with
    | refused => exact orderly_nil config tries
    | landed => exact orderly_send config tries _
    | failed lost => exact orderly_send config tries _
  | succ left ih =>
    unfold attemptFrom
    have sent := send_cases channel config tries (around.answers tries)
    generalize send channel config tries (around.answers tries) = result at sent
    cases sent with
    | refused => exact orderly_nil config tries
    | landed => exact orderly_send config tries _
    | failed lost =>
      dsimp only
      split
      · exact orderly_send config tries _
      split
      · exact orderly_send config tries _
      · exact orderly_append lost (ih (tries + 1) _)

/-- Each attempt offers the event to the whole list; a URL that took it is offered it again only
where the list has it again, or after attempts that each lost a URL. -/
theorem offered_again_explained (channel : UrlChannel) (config : Document) (policy : RetryPolicy)
    (around : Surroundings) :
    let offers := (attempt channel config policy around).offers
    (∀ offer ∈ offers,
      (offers.filter fun other => other.tries = offer.tries).map Offer.url = asStrings config "urls") ∧
    offers.Pairwise fun first second =>
      first.url = second.url → first.answer.accepted = true → Explained offers first second := by
  have orderly : Orderly config 1 (attempt channel config policy around).offers :=
    attemptFrom_orderly (policy.attempts - 1) 1 policy.backoff
  exact ⟨orderly.whole, orderly.pairs.imp fun explained _ _ => explained⟩

/-- Two webhook URLs, the second always answering 500, and two attempts. -/
def halfDead : Document :=
  [("enabled", .bool true), ("urls", .arr [.str "https://a.example/hook", .str "https://b.example/hook"])]

def twice : RetryPolicy := ⟨2, 10, 60, 360, by decide⟩

def secondDown : Surroundings where
  answers _ position := if position = 0 then .status 200 else .status 500
  clock tries := tries
  waited _ _ := true

/-- The first URL took the event and is sent it again. -/
theorem live_url_offered_again :
    ¬ (attempt .webhook halfDead twice secondDown).offers.Pairwise fun first second =>
      first.url = second.url → first.answer.accepted = false := by
  decide

end VodogeCloud.Guarantees.RepeatedOffers
