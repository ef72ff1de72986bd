import VodogeCloud.Guarantees.TenantHosts
import VodogeCloud.Lib.Transactions
import VodogeCloud.Source.BotConfig

/-!
# One identity for a chat

`TelegramOperators` (apps/gateway/internal/settings/settings.go:272-319) against the lines
it reads. A line maps a chat to an account or is no mapping. The list is accepted where
every line is a mapping and the lines together are a function from chats to accounts; the
operators are that function, each chat at the place of its first line.
-/

set_option autoImplicit false

namespace VodogeCloud.Guarantees.OperatorIdentities

open VodogeCloud.Lib.NestedMaps VodogeCloud.Lib.Transactions
open VodogeCloud.Source.Postgres (Jsonb)
open VodogeCloud.Source.Settings VodogeCloud.Source.BotConfig
open VodogeCloud.Source.ClientAddress (indexOf)
open VodogeCloud.Source.TelegramBot (cut cut_eq cut_absent)
open VodogeCloud.Source.TenantHost (trimSpace)
open VodogeCloud.Guarantees.TenantHosts (asciiCasing)

/-! ## Lines -/

/-- A chat id: one to twenty digits, with or without a sign. -/
def IsChat (text : List Char) : Prop :=
  ∃ digits : List Char, (text = digits ∨ text = '-' :: digits) ∧ (∀ c ∈ digits, c.isDigit = true) ∧
    1 ≤ digits.length ∧ digits.length ≤ 20

/-- An address: one `@`, with no white space and something on either side. -/
def IsEmail (text : List Char) : Prop :=
  ∃ user domain : List Char, text = user ++ '@' :: domain ∧ user ≠ [] ∧ domain ≠ [] ∧
    (∀ c ∈ user, addressLetter c = true) ∧ ∀ c ∈ domain, addressLetter c = true

/-- The line reads `<chat>=<email>`. -/
def Maps (texts : Texts) (line chat email : List Char) : Prop :=
  ∃ before after : List Char, line = before ++ '=' :: after ∧ '=' ∉ before ∧ chat = trimSpace before ∧
    email = texts.casing.lower (trimSpace after) ∧ IsChat chat ∧ IsEmail email

/-- The line of an item; what is no text is a blank one. -/
def lineOf (item : Jsonb) : List Char := trimSpace (asString (some item)).toList

/-- The lines that are not blank. -/
def linesOf (items : List Jsonb) : List (List Char) := (items.map lineOf).filter (· ≠ [])

theorem chatPattern_iff {text : List Char} : telegramChatPattern text = true ↔ IsChat text := by
  unfold telegramChatPattern
  dsimp only
  rw [Bool.and_eq_true, Bool.and_eq_true, List.all_eq_true, decide_eq_true_eq, decide_eq_true_eq, and_assoc]
  constructor
  · rintro ⟨digits, long, short⟩
    split at digits
    · next signed =>
      rw [if_pos signed] at long short
      refine ⟨text.drop 1, Or.inr ?_, digits, long, short⟩
      cases text with
      | nil => cases signed
      | cons c rest =>
        cases signed
        rfl
    · next plain =>
      rw [if_neg plain] at long short
      exact ⟨text, Or.inl rfl, digits, long, short⟩
  · rintro ⟨digits, rfl | rfl, each, long, short⟩
    · have plain : ¬ text.head? = some '-' := by
        intro signed
        have digit := each '-' (List.mem_of_mem_head? signed)
        exact absurd digit (by decide)
      rw [if_neg plain]
      exact ⟨each, long, short⟩
    · rw [if_pos (List.head?_cons)]
      exact ⟨each, long, short⟩

theorem emailPattern_iff {text : List Char} : telegramEmailPattern text = true ↔ IsEmail text := by
  have plain : ∀ {piece : List Char}, (∀ c ∈ piece, addressLetter c = true) → '@' ∉ piece := by
    intro piece each member
    exact absurd (each '@' member) (by decide)
  constructor
  · intro matched
    by_cases there : '@' ∈ text
    · obtain ⟨user, domain, rfl, free⟩ := List.eq_append_cons_of_mem there
      unfold telegramEmailPattern at matched
      rw [cut_eq free] at matched
      simp only [Bool.true_and, Bool.and_eq_true, decide_eq_true_eq, List.all_eq_true, ne_eq] at matched
      obtain ⟨⟨⟨someUser, letters⟩, someDomain⟩, others⟩ := matched
      exact ⟨user, domain, rfl, someUser, someDomain, letters, others⟩
    · unfold telegramEmailPattern at matched
      rw [cut_absent there] at matched
      cases matched
  · rintro ⟨user, domain, rfl, someUser, someDomain, letters, others⟩
    unfold telegramEmailPattern
    rw [cut_eq (plain letters)]
    simp only [Bool.true_and, Bool.and_eq_true, decide_eq_true_eq, List.all_eq_true, ne_eq]
    exact ⟨⟨⟨someUser, letters⟩, someDomain⟩, others⟩

/-- A line maps one chat to one account. -/
theorem maps_unique {texts : Texts} {line chat email chat' email' : List Char} (maps : Maps texts line chat email)
    (maps' : Maps texts line chat' email') : chat = chat' ∧ email = email' := by
  obtain ⟨before, after, rfl, free, rfl, rfl, _, _⟩ := maps
  obtain ⟨before', after', same, free', rfl, rfl, _, _⟩ := maps'
  have cuts : (before, after, true) = (before', after', true) := by
    rw [← cut_eq free, same, cut_eq free']
  cases cuts
  exact ⟨rfl, rfl⟩

/-! ## The loop -/

variable {texts : Texts}

/-- What one turn does with its line. -/
theorem addOperator_cases (texts : Texts) (listed : Listed) (item : Jsonb) :
    lineOf item = [] ∧ addOperator texts listed item = .ok listed ∨
      lineOf item ≠ [] ∧ (¬ ∃ chat email, Maps texts (lineOf item) chat email) ∧
        (∃ reason, addOperator texts listed item = .error reason) ∨
      lineOf item ≠ [] ∧ ∃ chat email, Maps texts (lineOf item) chat email ∧
        (get chat listed.seen = none ∧
            addOperator texts listed item = .ok ⟨put chat email listed.seen, listed.out ++ [⟨chat, email⟩]⟩ ∨
          get chat listed.seen = some email ∧ addOperator texts listed item = .ok listed ∨
          (∃ previous, get chat listed.seen = some previous ∧ previous ≠ email) ∧
            ∃ reason, addOperator texts listed item = .error reason) := by
  unfold addOperator
  rw [show trimSpace (asString (some item)).toList = lineOf item from rfl]
  dsimp only
  by_cases blank : lineOf item = []
  · rw [if_pos blank]
    exact Or.inl ⟨blank, rfl⟩
  · rw [if_neg blank]
    by_cases there : '=' ∈ lineOf item
    · obtain ⟨before, after, split, free⟩ := List.eq_append_cons_of_mem there
      rw [split, cut_eq free]
      dsimp only
      by_cases reads : IsChat (trimSpace before) ∧ IsEmail (texts.casing.lower (trimSpace after))
      · have maps : Maps texts (before ++ '=' :: after) (trimSpace before) (texts.casing.lower (trimSpace after)) :=
          ⟨before, after, rfl, free, rfl, rfl, reads.1, reads.2⟩
        rw [← split] at maps ⊢
        refine Or.inr (Or.inr ⟨blank, _, _, maps, ?_⟩)
        rw [if_neg]
        · cases held : get (trimSpace before) listed.seen with
          | none => exact Or.inl ⟨rfl, rfl⟩
          | some previous =>
            dsimp only
            by_cases same : previous = texts.casing.lower (trimSpace after)
            · rw [if_neg (not_not_intro same), same]
              exact Or.inr (Or.inl ⟨rfl, rfl⟩)
            · rw [if_pos same]
              exact Or.inr (Or.inr ⟨⟨previous, rfl, same⟩, _, rfl⟩)
        · rw [chatPattern_iff.mpr reads.1, emailPattern_iff.mpr reads.2]
          decide
      · rw [← split]
        refine Or.inr (Or.inl ⟨blank, ?_, ?_⟩)
        · rintro ⟨chat, email, before', after', split', free', rfl, rfl, isChat, isEmail⟩
          have cuts : (before, after, true) = (before', after', true) := by
            rw [← cut_eq free, ← split, split', cut_eq free']
          cases cuts
          exact reads ⟨isChat, isEmail⟩
        · rw [if_pos]
          · exact ⟨_, rfl⟩
          · rw [not_and_or, ← chatPattern_iff, ← emailPattern_iff, Bool.not_eq_true, Bool.not_eq_true] at reads
            exact Or.inr reads
    · rw [cut_absent there]
      refine Or.inr (Or.inl ⟨blank, ?_, _, if_pos (Or.inl rfl)⟩)
      rintro ⟨chat, email, before, after, split, _⟩
      rw [split] at there
      exact there (List.mem_append_right _ List.mem_cons_self)

/-- A chat that some of the lines map to an account. -/
def Mapped (texts : Texts) (lines : List (List Char)) (chat email : List Char) : Prop :=
  ∃ line ∈ lines, Maps texts line chat email

/-- The accounts so far are the function that the lines are. -/
structure Follows (texts : Texts) (listed : Listed) (lines : List (List Char)) : Prop where
  keys : (listed.seen.map Prod.fst).Nodup
  out : listed.out = listed.seen.map fun entry => ⟨entry.1, entry.2⟩
  known : ∀ chat email, get chat listed.seen = some email ↔ Mapped texts lines chat email

theorem follows_nil : Follows texts ⟨[], []⟩ [] where
  keys := List.nodup_nil
  out := rfl
  known chat email := iff_of_false (fun held => by cases held) (fun ⟨_, member, _⟩ => absurd member List.not_mem_nil)

theorem linesOf_cons (item : Jsonb) (rest : List Jsonb) :
    linesOf (item :: rest) = if lineOf item = [] then linesOf rest else lineOf item :: linesOf rest := by
  unfold linesOf
  rw [List.map_cons, List.filter_cons]
  by_cases blank : lineOf item = []
  · rw [if_neg (by simp [blank]), if_pos blank]
  · rw [if_pos (by simp [blank]), if_neg blank]

theorem mapped_snoc {lines : List (List Char)} {line chat email chat' email' : List Char} (maps : Maps texts line chat email) :
    Mapped texts (lines ++ [line]) chat' email' ↔ Mapped texts lines chat' email' ∨ chat' = chat ∧ email' = email := by
  constructor
  · rintro ⟨other, member, maps'⟩
    rcases List.mem_append.mp member with old | new
    · exact Or.inl ⟨other, old, maps'⟩
    · rw [List.mem_singleton] at new
      subst new
      exact Or.inr (maps_unique maps' maps)
  · rintro (⟨other, member, maps'⟩ | ⟨rfl, rfl⟩)
    · exact ⟨other, List.mem_append_left _ member, maps'⟩
    · exact ⟨line, List.mem_append_right _ List.mem_cons_self, maps⟩

/-- A new line of a chat that has no account, or has this one. -/
theorem Follows.snoc {listed : Listed} {lines : List (List Char)} (follows : Follows texts listed lines)
    {line chat email : List Char} (maps : Maps texts line chat email) :
    (get chat listed.seen = none →
      Follows texts ⟨put chat email listed.seen, listed.out ++ [⟨chat, email⟩]⟩ (lines ++ [line])) ∧
    (get chat listed.seen = some email → Follows texts listed (lines ++ [line])) := by
  refine ⟨fun absent => ⟨nodup_put chat email follows.keys, ?_, fun chat' email' => ?_⟩,
    fun held => ⟨follows.keys, follows.out, fun chat' email' => ?_⟩⟩
  · dsimp only
    rw [put_of_none absent, List.map_append, follows.out]
    rfl
  · rw [mapped_snoc maps, ← follows.known]
    by_cases same : chat' = chat
    · subst same
      rw [get_put_self, absent]
      constructor
      · intro equal
        exact Or.inr ⟨rfl, (Option.some.inj equal).symm⟩
      · rintro (equal | ⟨_, rfl⟩)
        · cases equal
        · rfl
    · rw [get_put_other same]
      exact ⟨Or.inl, fun h => h.elim id fun both => absurd both.1 same⟩
  · rw [mapped_snoc maps, ← follows.known]
    refine ⟨Or.inl, ?_⟩
    rintro (known | ⟨rfl, rfl⟩)
    · exact known
    · exact held

/-- A loop that went through read every line, and knows them all. -/
theorem fold_ok : ∀ {items : List Jsonb} {listed last : Listed} {lines : List (List Char)},
    items.foldlM (addOperator texts) listed = .ok last → Follows texts listed lines →
      (∀ line ∈ linesOf items, ∃ chat email, Maps texts line chat email) ∧ Follows texts last (lines ++ linesOf items)
  | [], listed, last, lines, ran, follows => by
    cases ran
    refine ⟨fun line member => absurd member List.not_mem_nil, ?_⟩
    rw [show linesOf [] = [] from rfl, List.append_nil]
    exact follows
  | item :: rest, listed, last, lines, ran, follows => by
    rw [List.foldlM_cons] at ran
    obtain ⟨next, turn, ran⟩ := bind_success ran
    rw [linesOf_cons]
    rcases addOperator_cases texts listed item with
      ⟨blank, kept⟩ | ⟨_, _, reason, failed⟩ | ⟨some_, chat, email, maps, outcome⟩
    · rw [turn] at kept
      cases kept
      rw [if_pos blank]
      exact fold_ok ran follows
    · rw [turn] at failed
      cases failed
    · have onward : Follows texts next (lines ++ [lineOf item]) := by
        rcases outcome with ⟨absent, added⟩ | ⟨held, kept⟩ | ⟨_, reason, failed⟩
        · rw [turn] at added
          cases added
          exact (follows.snoc maps).1 absent
        · rw [turn] at kept
          cases kept
          exact (follows.snoc maps).2 held
        · rw [turn] at failed
          cases failed
      obtain ⟨read, final⟩ := fold_ok ran onward
      rw [if_neg some_]
      refine ⟨fun line member => ?_, ?_⟩
      · rcases List.mem_cons.mp member with rfl | later
        · exact ⟨chat, email, maps⟩
        · exact read line later
      · rw [List.append_assoc] at final
        exact final

/-- A loop that failed met a line it could not read, or two accounts of one chat. -/
theorem fold_error : ∀ {items : List Jsonb} {listed : Listed} {lines : List (List Char)} {reason : String},
    items.foldlM (addOperator texts) listed = .error reason → Follows texts listed lines →
      (∃ line ∈ linesOf items, ¬ ∃ chat email, Maps texts line chat email) ∨
        ∃ chat email email', Mapped texts (lines ++ linesOf items) chat email ∧
          Mapped texts (lines ++ linesOf items) chat email' ∧ email ≠ email'
  | [], _, _, _, ran, _ => by cases ran
  | item :: rest, listed, lines, reason, ran, follows => by
    rw [List.foldlM_cons] at ran
    rw [linesOf_cons]
    rcases addOperator_cases texts listed item with
      ⟨blank, kept⟩ | ⟨some_, unread, _, _⟩ | ⟨some_, chat, email, maps, outcome⟩
    · rw [if_pos blank]
      rw [kept] at ran
      exact fold_error ran follows
    · rw [if_neg some_]
      exact Or.inl ⟨lineOf item, List.mem_cons_self, unread⟩
    · rw [if_neg some_]
      have onward : ∀ {next : Listed}, addOperator texts listed item = .ok next →
          Follows texts next (lines ++ [lineOf item]) →
          (∃ line ∈ lineOf item :: linesOf rest, ¬ ∃ chat email, Maps texts line chat email) ∨
            ∃ chat email email', Mapped texts (lines ++ lineOf item :: linesOf rest) chat email ∧
              Mapped texts (lines ++ lineOf item :: linesOf rest) chat email' ∧ email ≠ email' := by
        intro next turn follows'
        rw [turn] at ran
        rcases fold_error ran follows' with ⟨line, member, unread⟩ | clash
        · exact Or.inl ⟨line, List.mem_cons_of_mem _ member, unread⟩
        · rw [List.append_assoc] at clash
          exact Or.inr clash
      rcases outcome with ⟨absent, added⟩ | ⟨held, kept⟩ | ⟨⟨previous, held, differs⟩, _, _⟩
      · exact onward added ((follows.snoc maps).1 absent)
      · exact onward kept ((follows.snoc maps).2 held)
      · obtain ⟨line, member, maps'⟩ := (follows.known chat previous).mp held
        exact Or.inr ⟨chat, previous, email, ⟨line, List.mem_append_left _ member, maps'⟩,
          ⟨lineOf item, List.mem_append_right _ List.mem_cons_self, maps⟩, differs⟩

/-- A line that was read before changes nothing. -/
theorem fold_repeated {early late : List Jsonb} {item : Jsonb} (met : ∃ other ∈ early, lineOf other = lineOf item) :
    (early ++ item :: late).foldlM (addOperator texts) ⟨[], []⟩ = (early ++ late).foldlM (addOperator texts) ⟨[], []⟩ := by
  rw [List.foldlM_append, List.foldlM_append]
  cases ran : early.foldlM (addOperator texts) ⟨[], []⟩ with
  | error reason => rfl
  | ok listed =>
    have turn : addOperator texts listed item = .ok listed := by
      obtain ⟨read, follows⟩ := fold_ok ran follows_nil
      obtain ⟨other, member, same⟩ := met
      rcases addOperator_cases texts listed item with
        ⟨_, kept⟩ | ⟨some_, unread, _⟩ | ⟨some_, chat, email, maps, outcome⟩
      · exact kept
      · have inLines : lineOf item ∈ linesOf early :=
          List.mem_filter.mpr ⟨same ▸ List.mem_map_of_mem member, decide_eq_true some_⟩
        exact absurd (read _ inLines) unread
      · have inLines : lineOf item ∈ linesOf early :=
          List.mem_filter.mpr ⟨same ▸ List.mem_map_of_mem member, decide_eq_true some_⟩
        have known : get chat listed.seen = some email := (follows.known chat email).mpr ⟨_, inLines, maps⟩
        rcases outcome with ⟨absent, _⟩ | ⟨_, kept⟩ | ⟨⟨previous, held, differs⟩, _⟩
        · rw [known] at absent
          cases absent
        · exact kept
        · rw [known] at held
          exact absurd (Option.some.inj held).symm differs
    show (addOperator texts listed item >>= fun next => late.foldlM (addOperator texts) next) = _
    rw [turn]

/-! ## Documents -/

/-- What stands under `telegram.bot.operators`. -/
def operatorsOf (document : Document) : Option Jsonb := (telegramBotBlock document).bind (get "operators")

def operatorLines (document : Document) : List (List Char) :=
  match operatorsOf document with
  | some (.arr items) => linesOf items
  | _ => []

/-- `TelegramOperators` from there on. -/
def readOperators (texts : Texts) : Option Jsonb → Except String (List TelegramOperator)
  | none => .ok []
  | some .null => .ok []
  | some (.arr items) => (items.foldlM (addOperator texts) ⟨[], []⟩).map Listed.out
  | some _ => .error operatorsNoList

theorem telegramOperators_eq (texts : Texts) (document : Document) :
    telegramOperators texts document = readOperators texts (operatorsOf document) := by
  unfold telegramOperators operatorsOf
  cases telegramBotBlock document with
  | none => rfl
  | some bot =>
    rw [Option.bind_some]
    dsimp only
    cases get "operators" bot with
    | none => rfl
    | some value => cases value <;> rfl

theorem operators_accepted {document : Document} {operators : List TelegramOperator}
    (read : telegramOperators texts document = .ok operators) :
    ∃ last, operators = last.out ∧ Follows texts last (operatorLines document) ∧
      ∀ line ∈ operatorLines document, ∃ chat email, Maps texts line chat email := by
  rw [telegramOperators_eq] at read
  unfold readOperators at read
  unfold operatorLines
  have none_ : ∀ {lines : List (List Char)}, lines = [] → Except.ok (ε := String) [] = .ok operators →
      ∃ last, operators = last.out ∧ Follows texts last lines ∧ ∀ line ∈ lines, ∃ chat email, Maps texts line chat email := by
    rintro _ rfl same
    cases same
    exact ⟨⟨[], []⟩, rfl, follows_nil, fun line member => absurd member List.not_mem_nil⟩
  split at read
  · next absent =>
    rw [absent]
    exact none_ rfl read
  · next null =>
    rw [null]
    exact none_ rfl read
  · next items listed =>
    rw [listed]
    obtain ⟨last, ran, rfl⟩ := map_success read
    obtain ⟨maps, follows⟩ := fold_ok ran follows_nil
    exact ⟨last, rfl, follows, maps⟩
  · cases read

theorem operators_refused {document : Document} {reason : String}
    (refused : telegramOperators texts document = .error reason) :
    (∃ value, operatorsOf document = some value ∧ value ≠ .null ∧ ∀ items, value ≠ .arr items) ∨
      (∃ line ∈ operatorLines document, ¬ ∃ chat email, Maps texts line chat email) ∨
      ∃ chat email email', Mapped texts (operatorLines document) chat email ∧
        Mapped texts (operatorLines document) chat email' ∧ email ≠ email' := by
  rw [telegramOperators_eq] at refused
  unfold readOperators at refused
  unfold operatorLines
  split at refused
  · cases refused
  · cases refused
  · next items listed =>
    rw [listed]
    cases ran : items.foldlM (addOperator texts) ⟨[], []⟩ with
    | ok last =>
      rw [ran] at refused
      cases refused
    | error why => exact Or.inr (fold_error ran follows_nil)
  · next value null list there => exact Or.inl ⟨value, there, null, list⟩

/-- A chat has at most one identity. Where the operators are read, no two share a chat, and
they are what the lines map; a line read again changes nothing. They are refused exactly
where the field is there and neither null nor a list, a line is no mapping, or two lines map
one chat to two accounts; and then nobody is authorised. -/
theorem chat_has_one_identity (texts : Texts) (document : Document) :
    (∀ operators, telegramOperators texts document = .ok operators →
      (operators.map TelegramOperator.chatID).Nodup ∧
        (∀ line ∈ operatorLines document, ∃ chat email, Maps texts line chat email ∧ ⟨chat, email⟩ ∈ operators) ∧
        ∀ operator ∈ operators, Mapped texts (operatorLines document) operator.chatID operator.email) ∧
    (∀ (again : Document) (early late : List Jsonb) (item : Jsonb),
      operatorsOf again = some (.arr (early ++ item :: late)) → (∃ other ∈ early, lineOf other = lineOf item) →
      operatorsOf document = some (.arr (early ++ late)) →
      telegramOperators texts again = telegramOperators texts document) ∧
    ((∃ reason, telegramOperators texts document = .error reason) ↔
      (∃ value, operatorsOf document = some value ∧ value ≠ .null ∧ ∀ items, value ≠ .arr items) ∨
        (∃ line ∈ operatorLines document, ¬ ∃ chat email, Maps texts line chat email) ∨
        ∃ chat email email', Mapped texts (operatorLines document) chat email ∧
          Mapped texts (operatorLines document) chat email' ∧ email ≠ email') ∧
    (∀ reason, telegramOperators texts document = .error reason →
      (readConfig texts document).enabled = false ∧ (readConfig texts document).operators = 0 ∧
        ∀ senderID, (readConfig texts document).account senderID = none) := by
  refine ⟨fun operators read => ?_, fun again early late item repeated met listed => ?_, ⟨?_, fun cause => ?_⟩,
    fun reason refused => ?_⟩
  · obtain ⟨last, rfl, follows, maps⟩ := operators_accepted read
    have names : last.out.map TelegramOperator.chatID = last.seen.map Prod.fst := by
      rw [follows.out, List.map_map]
      rfl
    have member_iff : ∀ chat email, ⟨chat, email⟩ ∈ last.out ↔ (chat, email) ∈ last.seen := by
      intro chat email
      rw [follows.out, List.mem_map]
      constructor
      · rintro ⟨entry, member, same⟩
        cases same
        exact member
      · exact fun member => ⟨(chat, email), member, rfl⟩
    refine ⟨names ▸ follows.keys, fun line member => ?_, fun operator member => ?_⟩
    · obtain ⟨chat, email, read⟩ := maps line member
      refine ⟨chat, email, read, (member_iff chat email).mpr ?_⟩
      exact mem_of_get ((follows.known chat email).mpr ⟨line, member, read⟩)
    · refine (follows.known _ _).mp (get_of_mem follows.keys ?_)
      exact (member_iff operator.chatID operator.email).mp member
  · rw [telegramOperators_eq, telegramOperators_eq, repeated, listed]
    exact congrArg (Except.map Listed.out) (fold_repeated met)
  · rintro ⟨reason, refused⟩
    exact operators_refused refused
  · cases outcome : telegramOperators texts document with
    | error reason => exact ⟨reason, rfl⟩
    | ok operators =>
      exfalso
      obtain ⟨last, rfl, follows, maps⟩ := operators_accepted outcome
      rcases cause with ⟨value, there, solid, other⟩ | ⟨line, member, unread⟩ | ⟨chat, email, email', first, second, differs⟩
      · rw [telegramOperators_eq, there] at outcome
        cases value with
        | null => exact solid rfl
        | arr items => exact other items rfl
        | _ => cases outcome
      · exact unread (maps line member)
      · have known := (follows.known chat email).mpr first
        rw [(follows.known chat email').mpr second] at known
        exact differs (Option.some.inj known).symm
  · unfold readConfig
    rw [refused]
    exact ⟨rfl, rfl, fun _ => rfl⟩

/-- Two chats of one account, one of them twice. -/
def twoChats : Document :=
  [("telegram", .obj [("bot", .obj [("operators",
    .arr [.str "7=Ann@x.io", .str "  ", .str "-8 = ann@x.io", .str "7=ann@x.io", .num 3])])])]

theorem two_chats_read :
    ([⟨"7".toList, "ann@x.io".toList⟩, ⟨"-8".toList, "ann@x.io".toList⟩].map TelegramOperator.chatID).Nodup :=
  ((chat_has_one_identity ⟨asciiCasing, id⟩ twoChats).1 [⟨"7".toList, "ann@x.io".toList⟩, ⟨"-8".toList, "ann@x.io".toList⟩]
    (by decide)).1

end VodogeCloud.Guarantees.OperatorIdentities
