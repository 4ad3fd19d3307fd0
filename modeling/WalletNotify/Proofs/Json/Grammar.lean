import WalletNotify.Proofs.Json.Layout

/-!
# The grammar of JSON values

Which tokens make a JSON value, whatever it means. Main statement: a value is passed over up to its
end and no further, however deep it is nested and however it is laid out (`skip_of_isValue`).
-/

namespace WalletNotify.Json

/-! ## Numbers -/

/-- One digit or more. -/
def IsDigits (digits : Input) : Prop := digits ≠ [] ∧ ∀ c ∈ digits, c.isDigit

/-- The digits in front of the point: no digit follows a leading zero. -/
inductive IsWhole : Input → Prop where
  | zero : IsWhole ['0']
  | digits {digits : Input} (all : IsDigits digits) (leading : digits.head? ≠ some '0') :
      IsWhole digits

/-- A fraction, if there is any. -/
inductive IsFraction : Input → Prop where
  | none : IsFraction []
  | some {digits : Input} (all : IsDigits digits) : IsFraction ('.' :: digits)

/-- An exponent, if there is any. -/
inductive IsExponent : Input → Prop where
  | none : IsExponent []
  | some {letter : Char} {sign digits : Input} (letters : letter = 'e' ∨ letter = 'E')
      (signs : sign = [] ∨ sign = ['+'] ∨ sign = ['-']) (all : IsDigits digits) :
      IsExponent (letter :: (sign ++ digits))

/-- A number token. -/
inductive IsNumber : Input → Prop where
  | unsigned {whole fraction exponent : Input} (w : IsWhole whole) (f : IsFraction fraction)
      (e : IsExponent exponent) : IsNumber (whole ++ (fraction ++ exponent))
  | negative {whole fraction exponent : Input} (w : IsWhole whole) (f : IsFraction fraction)
      (e : IsExponent exponent) : IsNumber ('-' :: (whole ++ (fraction ++ exponent)))

/-! ## Values -/

/-- The tokens of a member. -/
def memberTokens (name : Input) (value : List Input) : List Input := name :: [':'] :: value

/-- The tokens of a value. -/
inductive IsValue : List Input → Prop where
  | null : IsValue [['n', 'u', 'l', 'l']]
  | true : IsValue [['t', 'r', 'u', 'e']]
  | false : IsValue [['f', 'a', 'l', 's', 'e']]
  | number {token : Input} (is : IsNumber token) : IsValue [token]
  | string {token : Input} (is : IsString token) : IsValue [token]
  | array {items : List (List Input)} (each : ∀ item ∈ items, IsValue item) :
      IsValue (enclosed '[' ']' items)
  | object {members : List (Input × List Input)} (names : ∀ m ∈ members, IsString m.1)
      (each : ∀ m ∈ members, IsValue m.2) :
      IsValue (enclosed '\x7b' '\x7d' (members.map fun m => memberTokens m.1 m.2))

/-! ## Passing over tokens -/

section Numbers

variable {digits whole fraction exponent rest : Input}

/-- Digits are passed over, up to the first character that is none. -/
lemma skipDigits_append (all : IsDigits digits) (stop : ∀ c ∈ rest.head?, ¬ c.isDigit) :
    skipDigits (digits ++ rest) = .ok rest := by
  obtain ⟨filled, all⟩ := all
  cases digits with
  | nil => exact absurd rfl filled
  | cons c digits =>
    obtain ⟨first, others⟩ := List.forall_mem_cons.mp all
    have left : (digits ++ rest).dropWhile Char.isDigit = rest := by
      rw [List.dropWhile_append_of_pos others]
      cases rest with
      | nil => rfl
      | cons d rest => exact List.dropWhile_cons_of_neg (stop d rfl)
    rw [List.cons_append, skipDigits, if_pos first, left]

/-- An exponent is passed over, up to the end of the number. -/
lemma skipExponent_append (is : IsExponent exponent) (ends : Ends rest) :
    skipExponent (exponent ++ rest) = .ok rest := by
  cases is with
  | none =>
    cases rest with
    | nil => rfl
    | cons c rest =>
      obtain ⟨-, -, notLower, notUpper⟩ := ends c rfl
      exact if_neg (by simp [notLower, notUpper])
  | @some letter sign digits letters signs all =>
    have passed := skipDigits_append all fun c head => (ends c head).1
    rcases signs with rfl | rfl | rfl
    · obtain ⟨filled, digit⟩ := all
      cases digits with
      | nil => exact absurd rfl filled
      | cons d digits =>
        have first := digit d List.mem_cons_self
        rw [List.nil_append, List.cons_append, ← passed, skipExponent, if_pos letters]
        all_goals
          rintro after ⟨⟩
          cases first
    · exact (if_pos letters).trans passed
    · exact (if_pos letters).trans passed

/-- What comes from the exponent of a number on does not begin with a digit. -/
lemma exponent_stops (is : IsExponent exponent) (ends : Ends rest) :
    ∀ c ∈ (exponent ++ rest).head?, ¬ c.isDigit := by
  cases is with
  | none => exact fun c head => (ends c head).1
  | some letters =>
    rintro c ⟨⟩
    rcases letters with rfl | rfl <;> decide

/-- What comes from the fraction of a number on does not begin with a digit. -/
lemma fraction_stops (f : IsFraction fraction) (e : IsExponent exponent) (ends : Ends rest) :
    ∀ c ∈ (fraction ++ (exponent ++ rest)).head?, ¬ c.isDigit := by
  cases f with
  | none =>
    rw [List.nil_append]
    exact exponent_stops e ends
  | some =>
    rintro c ⟨⟩
    decide

/-- A fraction and the exponent behind it are passed over. -/
lemma skipFraction_append (f : IsFraction fraction) (e : IsExponent exponent) (ends : Ends rest) :
    skipFraction (fraction ++ (exponent ++ rest)) = .ok rest := by
  have passed := skipExponent_append e ends
  cases f with
  | none =>
    rw [List.nil_append, skipFraction, passed]
    rintro after point
    cases e with
    | none => exact (ends _ (by rw [List.nil_append] at point; rw [point]; rfl)).2.1 rfl
    | some letters => rcases letters with rfl | rfl <;> cases point
  | some all =>
    rw [List.cons_append, skipFraction, skipDigits_append all (exponent_stops e ends), ok_bind,
      passed]

/-- A number is passed over. -/
lemma skipNumber_append (w : IsWhole whole) (f : IsFraction fraction) (e : IsExponent exponent)
    (ends : Ends rest) : skipNumber (whole ++ (fraction ++ (exponent ++ rest))) = .ok rest := by
  have passed := skipFraction_append f e ends
  have stops := fraction_stops f e ends
  cases w with
  | zero =>
    generalize fraction ++ (exponent ++ rest) = tail at passed stops
    cases tail with
    | nil => exact passed
    | cons c tail => exact (if_neg (stops c rfl)).trans passed
  | digits all leading =>
    rw [skipNumber, skipDigits_append all stops, ok_bind, passed]
    rintro after zero
    obtain ⟨filled, -⟩ := all
    cases whole with
    | nil => exact filled rfl
    | cons c whole => exact leading (congrArg (Option.some) (List.cons.inj zero).1)

/-- A number begins with a sign or a digit, and is passed over from there. -/
lemma IsNumber.skip {token : Input} (is : IsNumber token) :
    ∃ c tail, token = c :: tail ∧ (c = '-' ∨ c.isDigit) ∧ ∀ rest, Ends rest →
      skipNumber (if c = '-' then tail ++ rest else token ++ rest) = .ok rest := by
  cases is with
  | negative w f e =>
    refine ⟨'-', _, rfl, .inl rfl, ?_⟩
    intro rest ends
    rw [if_pos rfl, List.append_assoc, List.append_assoc]
    exact skipNumber_append w f e ends
  | @unsigned whole fraction exponent w f e =>
    obtain ⟨c, tail, rfl, digit⟩ : ∃ c tail, whole = c :: tail ∧ c.isDigit := by
      cases w with
      | zero => exact ⟨'0', [], rfl, by decide⟩
      | digits all leading =>
        obtain ⟨filled, all⟩ := all
        cases whole with
        | nil => exact absurd rfl filled
        | cons c tail => exact ⟨c, tail, rfl, all c List.mem_cons_self⟩
    refine ⟨c, _, rfl, .inr digit, ?_⟩
    intro rest ends
    rw [if_neg, List.append_assoc, List.append_assoc]
    · exact skipNumber_append w f e ends
    · rintro rfl
      cases digit

end Numbers

section Values

variable {item : List Input} {items : List (List Input)} {tokens : List Input}
  {text mid rest : Input} {fuel : Nat} {c : Char}

/-- Tokens are passed over as a value, if there is fuel for each of them. -/
def Passes (tokens : List Input) : Prop :=
  ∀ {fuel text rest}, tokens.length ≤ fuel → Laid tokens text rest → Ends rest →
    skipValue fuel text = .ok rest

/-- A single token is passed over as its first character tells. -/
lemma passes_token {token : Input} (visible : isBlank c = false)
    (passed : ∀ fuel text rest, skipBlanks text = c :: (token ++ rest) → Ends rest →
      skipValue (fuel + 1) text = .ok rest) : Passes [c :: token] := by
  intro fuel text rest enough laid ends
  obtain ⟨mid, opened, done⟩ := laid.first visible
  cases done
  cases fuel with
  | zero => simp at enough
  | succ fuel => exact passed fuel text _ opened ends

/-- The items of an array are passed over up to its end. -/
lemma skipItems_laid (each : ∀ part ∈ item :: items, Passes part)
    (enough : (commas (item :: items)).length < fuel)
    (laid : Laid (commas (item :: items) ++ [[']']]) text rest) :
    skipItems fuel text = .ok rest := by
  induction items generalizing item fuel text with
  | nil =>
    cases fuel with
    | zero => simp at enough
    | succ fuel =>
      obtain ⟨mid, first, ends, closed⟩ := laid.last (.inl rfl)
      rw [skipItems, each _ List.mem_cons_self (Nat.le_of_lt_succ enough) first ends, ok_bind]
      simp only [closed]
      rfl
  | cons next items ih =>
    cases fuel with
    | zero => simp at enough
    | succ fuel =>
      obtain ⟨first, others⟩ := List.forall_mem_cons.mp each
      obtain ⟨mid, after, front, ends, comma, back⟩ := laid.more
      rw [commas, List.length_append, List.length_cons] at enough
      rw [skipItems, first (by omega) front ends, ok_bind]
      simp only [comma]
      exact ih others (by omega) back

/-- The name of a member and the colon behind it are passed over. -/
lemma Laid.name {name : Input} (is : IsString name)
    (laid : Laid (memberTokens name tokens) text rest) :
    ∃ inner after mid, Json.skipBlanks text = '"' :: inner ∧
      skipString (inner.length + 1) inner = .ok after ∧ Json.skipBlanks after = ':' :: mid ∧
      Laid tokens mid rest := by
  obtain ⟨body, rfl, is⟩ := is
  obtain ⟨after, opened, laid⟩ := laid.first (by decide)
  obtain ⟨mid, colon, laid⟩ := laid.first (by decide)
  refine ⟨_, after, mid, opened, ?_, colon, laid⟩
  rw [List.append_assoc]
  apply is.skip
  rw [List.length_append]
  omega

/-- The members of an object are passed over up to its end. -/
lemma skipMembers_laid {member : Input × List Input} {members : List (Input × List Input)}
    (names : ∀ m ∈ member :: members, IsString m.1) (each : ∀ m ∈ member :: members, Passes m.2)
    (enough : (commas ((member :: members).map fun m => memberTokens m.1 m.2)).length < fuel)
    (laid : Laid (commas ((member :: members).map fun m => memberTokens m.1 m.2) ++ [['\x7d']])
      text rest) :
    skipMembers fuel text = .ok rest := by
  induction members generalizing member fuel text with
  | nil =>
    cases fuel with
    | zero => simp at enough
    | succ fuel =>
      obtain ⟨mid, front, ends, closed⟩ := laid.last (.inr rfl)
      obtain ⟨inner, after, value, opened, name, colon, valueLaid⟩ :=
        front.name (names _ List.mem_cons_self)
      have fewer : member.2.length ≤ fuel := by
        simp only [List.map_cons, List.map_nil, commas, memberTokens, List.length_cons] at enough
        omega
      rw [skipMembers, opened]
      simp only [name, ok_bind, colon, each _ List.mem_cons_self fewer valueLaid ends, closed]
      rfl
  | cons next members ih =>
    cases fuel with
    | zero => simp at enough
    | succ fuel =>
      obtain ⟨firstName, otherNames⟩ := List.forall_mem_cons.mp names
      obtain ⟨first, others⟩ := List.forall_mem_cons.mp each
      rw [List.map_cons, List.map_cons] at laid enough
      obtain ⟨mid, after, front, ends, comma, back⟩ := laid.more
      obtain ⟨inner, afterName, value, opened, name, colon, valueLaid⟩ := front.name firstName
      rw [commas, List.length_append, List.length_cons, memberTokens, List.length_cons,
        List.length_cons] at enough
      have fewer : member.2.length ≤ fuel := by omega
      rw [skipMembers, opened]
      simp only [name, ok_bind, colon, first fewer valueLaid ends, comma]
      exact ih otherNames others (by rw [List.map_cons]; omega) back

/-- A value that begins with a digit is passed over as a number. -/
lemma skipValue_of_isDigit (digit : c.isDigit) (opened : skipBlanks text = c :: mid) :
    skipValue (fuel + 1) text = skipNumber (c :: mid) := by
  rw [skipValue, opened]
  split
  case h_9 same =>
    cases same
    exact if_pos digit
  all_goals
    rename_i same
    cases same
    try cases digit

/-- A value begins with no closing bracket. -/
lemma IsValue.begins (is : IsValue tokens) : ∃ c, Begins tokens c ∧ c ≠ ']' := by
  cases is with
  | null | true | false | array | object => exact ⟨_, ⟨_, _, rfl, by decide⟩, by decide⟩
  | number is =>
    obtain ⟨c, tail, rfl, first, -⟩ := is.skip
    refine ⟨c, ⟨tail, [], rfl, isBlank_of_integer first⟩, ?_⟩
    rintro rfl
    simp at first
  | string is =>
    obtain ⟨body, rfl, -⟩ := is
    exact ⟨'"', ⟨_, _, rfl, by decide⟩, by decide⟩

/-- A value is passed over up to its end, if there is fuel for each of its tokens. -/
lemma passes_of_isValue (is : IsValue tokens) : Passes tokens := by
  -- Fuel is counted in tokens: brackets and commas pay for the steps from a value to its parts.
  induction is with
  | null | true | false =>
    apply passes_token (by decide)
    intro fuel text rest opened _
    rw [skipValue, opened]
    rfl
  | @number token is =>
    obtain ⟨c, tail, rfl, first, passed⟩ := is.skip
    apply passes_token (isBlank_of_integer first)
    intro fuel text rest opened ends
    have passed := passed rest ends
    by_cases minus : c = '-'
    · subst minus
      rw [skipValue, opened]
      exact passed
    · rw [skipValue_of_isDigit (first.resolve_left minus) opened, ← passed, if_neg minus,
        List.cons_append]
  | string is =>
    obtain ⟨body, rfl, is⟩ := is
    apply passes_token (by decide)
    intro fuel text rest opened _
    rw [skipValue, opened]
    simp only [List.append_assoc]
    apply is.skip
    simp only [List.length_append]
    omega
  | @array items each ih =>
    intro fuel text rest enough laid ends
    obtain ⟨mid, opened, inner⟩ := laid.first (by decide)
    rw [List.nil_append] at opened
    cases fuel with
    | zero => simp [enclosed] at enough
    | succ fuel =>
      rw [skipValue, opened]
      cases items with
      | nil =>
        obtain ⟨after, closed, done⟩ := inner.first (by decide)
        cases done
        simp only [closed]
        rfl
      | cons item items =>
        obtain ⟨c, begins, other⟩ := (each item List.mem_cons_self).begins
        obtain ⟨tail, visible, inner⟩ := inner.begins (begins.commas items _)
        simp only [visible]
        split
        case h_1 same => exact absurd (List.cons.inj same).1 other
        case h_2 =>
          apply skipItems_laid ih _ inner
          simp only [enclosed, List.length_cons, List.length_append] at enough
          omega
  | @object members names each ih =>
    intro fuel text rest enough laid ends
    obtain ⟨mid, opened, inner⟩ := laid.first (by decide)
    rw [List.nil_append] at opened
    cases fuel with
    | zero => simp [enclosed] at enough
    | succ fuel =>
      rw [skipValue, opened]
      cases members with
      | nil =>
        obtain ⟨after, closed, done⟩ := inner.first (by decide)
        cases done
        simp only [closed]
        rfl
      | cons member members =>
        obtain ⟨body, quoted, -⟩ := names member List.mem_cons_self
        have begins : Begins (memberTokens member.1 member.2) '"' :=
          ⟨body ++ ['"'], [':'] :: member.2, by rw [memberTokens, quoted], by decide⟩
        obtain ⟨tail, visible, inner⟩ := inner.begins (begins.commas _ _)
        simp only [visible]
        split
        case h_1 same => cases same
        case h_2 =>
          apply skipMembers_laid names ih _ inner
          simp only [enclosed, List.length_cons, List.length_append] at enough
          omega

/-- A token of a value is not empty. -/
lemma IsValue.filled (is : IsValue tokens) : ∀ token ∈ tokens, token ≠ [] := by
  induction is with
  | null | true | false => simp
  | number is =>
    obtain ⟨c, tail, rfl, -⟩ := is.skip
    simp
  | string is =>
    obtain ⟨body, rfl, -⟩ := is
    simp
  | array each ih => exact forall_mem_enclosed (by simp) (by simp) (by simp) ih
  | @object members names each ih =>
    refine forall_mem_enclosed (by simp) (by simp) (by simp) ?_
    intro part member
    obtain ⟨m, listed, rfl⟩ := List.mem_map.mp member
    obtain ⟨body, quoted, -⟩ := names m listed
    rw [memberTokens, List.forall_mem_cons, List.forall_mem_cons, quoted]
    exact ⟨by simp, by simp, ih m listed⟩

/-- A value is passed over up to its end, however it is laid out. -/
theorem skip_of_isValue (is : IsValue tokens) (laid : Laid tokens text rest) (ends : Ends rest) :
    skip text = .ok rest := by
  have shorter := laid.length_le is.filled
  exact passes_of_isValue is (by omega) laid ends

end Values

end WalletNotify.Json
