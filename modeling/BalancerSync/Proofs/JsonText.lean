import BalancerSync.Json.Printer
import BalancerSync.Proofs.Reading

/-!
# Reading what was written

The text of a value is read as the same value.  This goes in the steps of the reader: each part of
the text is read as its tokens, whatever follows it, the tokens are put together to the tree that
is written like the value, and the tree has the value.  It holds for all values of texts, numbers
without sign that fit into 64 bits, truth values and null, in arrays and in objects whose keys are
distinct.
-/

namespace BalancerSync.Json

open Text

/-! ## Strings -/

/-- A backslash and what it stands for with the character after it. -/
theorem readUnits_escaped {e : Char} {u : Nat} (he : escaped? e = some u) (r : List Char) :
    readUnits ('\\' :: e :: r) = (readUnits r).map fun x ↦ (u :: x.1, x.2) := by
  have hu : e ≠ 'u' := by
    rintro rfl
    cases he
  rw [readUnits]
  · rw [he]
    cases readUnits r <;> rfl
  · intro _ _ _ _ _ h
    exact absurd h hu

/-- An escape with four hexadecimal digits is read as the unit with this number. -/
theorem readUnits_hex {a b c d : Char} {u : Nat} (h : readDigits? 16 [a, b, c, d] = some u)
    (r : List Char) :
    readUnits ('\\' :: 'u' :: a :: b :: c :: d :: r)
      = (readUnits r).map fun x ↦ (u :: x.1, x.2) := by
  rw [readUnits, h]
  cases readUnits r <;> rfl

/-- A character that needs no escape stands for itself. -/
theorem readUnits_plain {c : Char} (hquote : c ≠ '"') (hslash : c ≠ '\\') (hc : ¬ c.toNat < 0x20)
    (r : List Char) :
    readUnits (c :: r) = (readUnits r).map fun x ↦ (c.toNat :: x.1, x.2) := by
  rw [readUnits]
  · rw [if_neg hc]
    cases readUnits r <;> rfl
  · exact hquote
  · intro _ _ _ _ _ h
    exact absurd h hslash
  · intro _ _ h
    exact absurd h hslash

/-- Whatever stands for a character is read as its number. -/
theorem readUnits_escape (c : Char) (r : List Char) :
    readUnits (escape c ++ r) = (readUnits r).map fun x ↦ (c.toNat :: x.1, x.2) := by
  have hhex : ∀ n < 0x20,
      readDigits? 16 ['0', '0', hexDigit (n / 16), hexDigit (n % 16)] = some n := by decide
  unfold escape
  split
  · exact readUnits_escaped rfl r
  · exact readUnits_escaped rfl r
  · exact readUnits_escaped rfl r
  · exact readUnits_escaped rfl r
  · exact readUnits_escaped rfl r
  · next hquote hslash _ _ _ =>
    split
    · next h => rw [h]; exact readUnits_escaped rfl r
    split
    · next h => rw [h]; exact readUnits_escaped rfl r
    split
    · next h => exact readUnits_hex (hhex _ h) r
    · next h => exact readUnits_plain hquote hslash h r

/-- A whole text is read back up to its closing quotation mark. -/
theorem readUnits_flatMap_escape (cs rest : List Char) :
    readUnits (cs.flatMap escape ++ '"' :: rest) = some (cs.map Char.toNat, rest) := by
  induction cs with
  | nil => rfl
  | cons c cs ih =>
    rw [List.flatMap_cons, List.append_assoc, readUnits_escape, ih]
    rfl

/-- Characters are no halves of surrogate pairs. -/
theorem not_surrogate (c : Char) :
    isHighSurrogate c.toNat = false ∧ isLowSurrogate c.toNat = false := by
  have hvalid : c.toNat < 0xD800 ∨ 0xDFFF < c.toNat ∧ c.toNat < 0x110000 := c.valid
  simp only [isHighSurrogate, isLowSurrogate, Bool.and_eq_false_iff, decide_eq_false_iff_not]
  omega

/-- Characters are put together from units one by one, as none of them is a surrogate. -/
theorem ofUnits_toNat (cs : List Char) : ofUnits (cs.map Char.toNat) = some cs := by
  induction cs with
  | nil => rfl
  | cons c cs ih =>
    obtain ⟨hhigh, hlow⟩ := not_surrogate c
    cases cs with
    | nil => simp [ofUnits, hhigh, hlow]
    | cons d cs =>
      rw [List.map_cons, List.map_cons, ofUnits, hhigh, hlow, ← List.map_cons, ih]
      simp

/-- A text is read back from its escaped form, whatever comes after it. -/
theorem readString?_escape (s : String) (rest : List Char) :
    readString? (s.toList.flatMap escape ++ '"' :: rest) = some (some s, rest) := by
  rw [readString?, readUnits_flatMap_escape]
  change some ((ofUnits (s.toList.map Char.toNat)).map String.ofList, rest) = _
  rw [ofUnits_toNat, Option.map_some, String.ofList_toList]

/-! ## Numbers -/

/-- A text before which a number may end. -/
def Stops (rest : List Char) : Prop := ∀ c ∈ rest.head?, c = ',' ∨ c = ']' ∨ c = '\x7d'

theorem stops_nil : Stops [] := by
  intro c hc
  cases hc

theorem stops_cons {c : Char} (hc : c = ',' ∨ c = ']' ∨ c = '\x7d') (rest : List Char) :
    Stops (c :: rest) := by
  intro d hd
  cases hd
  exact hc

/-- The digits of a number end where it stops. -/
theorem leadingDigits_append {ds rest : List Char} (hds : ∀ c ∈ ds, c.isDigit) (h : Stops rest) :
    leadingDigits (ds ++ rest) = (ds.filterMap (digit? 10), rest) := by
  have hrest : rest.takeWhile Char.isDigit = [] ∧ rest.dropWhile Char.isDigit = rest := by
    cases rest with
    | nil => exact ⟨rfl, rfl⟩
    | cons c rest =>
      have hc : c.isDigit = false := by
        obtain rfl | rfl | rfl := h c rfl <;> rfl
      simp [hc]
  rw [leadingDigits, List.takeWhile_append_of_pos hds, List.dropWhile_append_of_pos hds, hrest.1,
    hrest.2, List.append_nil]

/-- A number that stops has no fraction. -/
theorem readFraction?_of_stops {rest : List Char} (h : Stops rest) :
    readFraction? rest = some ([], rest) := by
  cases rest with
  | nil => rfl
  | cons c rest =>
    obtain rfl | rfl | rfl := h c rfl <;> rfl

theorem readExponent?_of_stops {rest : List Char} (h : Stops rest) :
    readExponent? rest = some (none, rest) := by
  cases rest with
  | nil => rfl
  | cons c rest =>
    obtain rfl | rfl | rfl := h c rfl <;> rfl

/-- The literal that a number without sign is written as. -/
def Literal.ofNat (n : Nat) : Literal := ⟨false, (showNat n).filterMap (digit? 10), [], none⟩

/-- The digits of a number are those of its tenth and then its last one. -/
theorem Literal.whole_ofNat (n : Nat) :
    (ofNat n).whole = if n < 10 then [n] else (ofNat (n / 10)).whole ++ [n % 10] := by
  change (Nat.toDigits 10 n).filterMap (digit? 10) = _
  rw [Nat.toDigits_eq_if (by decide)]
  split
  · next h => rw [List.filterMap_cons, digit?_digitChar (by decide) h, List.filterMap_nil]
  · rw [List.filterMap_append, List.filterMap_cons,
      digit?_digitChar (by decide) (Nat.mod_lt n (by decide)), List.filterMap_nil]
    rfl

theorem Literal.ofDigits_ofNat (n : Nat) : ofDigits 10 (ofNat n).whole = n := by
  induction n using Nat.strongRecOn with
  | ind n ih =>
    rw [whole_ofNat]
    split
    · simp [ofDigits]
    · have hdiv := ih (n / 10) (by omega)
      unfold ofDigits at hdiv ⊢
      rw [List.foldl_append, hdiv]
      simp only [List.foldl_cons, List.foldl_nil]
      omega

/-- No number but zero starts with the digit zero. -/
theorem Literal.head?_ofNat {n : Nat} (hn : n ≠ 0) : (ofNat n).whole.head? ≠ some 0 := by
  induction n using Nat.strongRecOn with
  | ind n ih =>
    rw [whole_ofNat]
    split
    · simpa using hn
    · have hdiv := ih (n / 10) (by omega) (by omega)
      intro hhead
      rw [List.head?_append] at hhead
      cases hwhole : (ofNat (n / 10)).whole with
      | nil =>
        rw [whole_ofNat] at hwhole
        split at hwhole <;> simp at hwhole
      | cons d ds =>
        rw [hwhole] at hhead hdiv
        exact hdiv (by simpa using hhead)

/-- A number of 64 bits is an integer literal. -/
theorem Literal.integer?_ofNat {n : Nat} (h : n < UInt64.size) :
    (ofNat n).integer? = some (n : Int) :=
  (Tree.integer?_eq_ofNat_iff h).2 ⟨rfl, rfl, rfl, ofDigits_ofNat n⟩

/-- The digits of a number do not start with a needless zero. -/
theorem Literal.no_leading_zeros (n : Nat) :
    ¬ ((ofNat n).whole.isEmpty ∨ (ofNat n).whole.head? = some 0 ∧ 1 < (ofNat n).whole.length) := by
  rw [not_or, not_and]
  constructor
  · rw [whole_ofNat]
    split <;> simp
  · intro hhead hlength
    have hn : n = 0 := Decidable.byContradiction fun hn ↦ head?_ofNat hn hhead
    subst hn
    exact absurd hlength (by decide)

/-- A number is written with at least one digit. -/
theorem exists_showNat (n : Nat) : ∃ c r, showNat n = c :: r ∧ c.isDigit := by
  obtain ⟨c, r, hcr⟩ := List.exists_cons_of_ne_nil (Nat.toDigits_ne_nil : showNat n ≠ [])
  exact ⟨c, r, hcr, isDigit_of_mem_showNat (hcr ▸ List.mem_cons_self)⟩

/-- A number is read back from its numeral, if that stops. -/
theorem readLiteral?_showNat (n : Nat) {rest : List Char} (h : Stops rest) :
    readLiteral? (showNat n ++ rest) = some (.ofNat n, rest) := by
  have hleading : leadingDigits (showNat n ++ rest) = ((Literal.ofNat n).whole, rest) :=
    leadingDigits_append (fun _ ↦ isDigit_of_mem_showNat) h
  have hminus : (showNat n ++ rest).head? ≠ some '-' := by
    obtain ⟨c, r, hcr, hc⟩ := exists_showNat n
    rw [hcr]
    rintro ⟨⟩
    cases hc
  -- Of the text only its leading digits matter now, and that it does not start with a sign.
  unfold readLiteral?
  generalize showNat n ++ rest = cs at hleading hminus ⊢
  split
  next hsign =>
  split at hsign
  · exact absurd rfl hminus
  · cases hsign
    rw [hleading]
    simp only [if_neg (Literal.no_leading_zeros n), readFraction?_of_stops h,
      readExponent?_of_stops h, Option.bind_eq_bind, Option.bind_some]
    rfl

/-! ## Tokens -/

/-- A token that starts with a digit is a number. -/
theorem readToken?_of_isDigit {c : Char} (hc : c.isDigit) (r : List Char) :
    readToken? (c :: r) = (readLiteral? (c :: r)).map fun x ↦ (.number x.1, x.2) := by
  unfold readToken?
  split
  case h_11 => rfl
  -- All other tokens start with a character that is no digit.
  all_goals
    next heq =>
    cases heq
    cases hc

theorem length_lt_cons_append (c : Char) (as bs rest : List Char) :
    rest.length < (c :: (as ++ (bs ++ rest))).length := by
  simp only [List.length_cons, List.length_append]
  omega

/-- A token at the start of a text, before which there is no blank. -/
theorem tokens?_of_readToken? {c : Char} {r rest : List Char} {t : Token}
    (hread : readToken? (c :: r) = some (t, rest)) (hspace : isSpace c = false)
    (hlt : rest.length < (c :: r).length) :
    tokens? (c :: r) = (tokens? rest).map (t :: ·) := by
  rw [tokens?, hspace, hread]
  simp only [Bool.false_eq_true, if_false, if_pos hlt]

/-- A quoted text is one token. -/
theorem tokens?_quote (s : String) (rest : List Char) :
    tokens? (quote s ++ rest) = (tokens? rest).map (.text (some s) :: ·) := by
  have hquote : quote s ++ rest = '"' :: (s.toList.flatMap escape ++ '"' :: rest) := by
    simp [quote]
  rw [hquote]
  refine tokens?_of_readToken? ?_ rfl (length_lt_cons_append _ _ ['"'] rest)
  rw [readToken?, readString?_escape]
  rfl

theorem tokens?_showNat (n : Nat) {rest : List Char} (h : Stops rest) :
    tokens? (showNat n ++ rest) = (tokens? rest).map (.number (.ofNat n) :: ·) := by
  have hread := readLiteral?_showNat n h
  obtain ⟨c, r, hcr, hc⟩ := exists_showNat n
  rw [hcr, List.cons_append] at hread ⊢
  refine tokens?_of_readToken? ?_ ?_ (length_lt_cons_append c r [] rest)
  · rw [readToken?_of_isDigit hc, hread]
    rfl
  · refine Bool.eq_false_iff.2 fun hspace ↦ ?_
    simp only [isSpace, Bool.or_eq_true, beq_iff_eq] at hspace
    obtain ((rfl | rfl) | rfl) | rfl := hspace <;> cases hc

/-! ## Values as tokens and as trees -/

/-- The literal that the text of a number is read as. -/
def Number.literal (n : Number) : Literal := (readLiteral? n.render).elim (.ofNat 0) (·.1)

theorem Number.render_ofNat (n : Nat) : (integer n).render = showNat n := by
  rw [render, if_neg (by omega), Int.natAbs_natCast]

/-- The literal of a number is the one that is read from its text. -/
theorem Number.literal_ofNat (n : Nat) : (integer n).literal = .ofNat n := by
  have hread := readLiteral?_showNat n stops_nil
  rw [List.append_nil] at hread
  rw [literal, render_ofNat, hread]
  rfl

namespace Value

mutual

/-- The tokens of the text of a value. -/
def tokens : Value → List Token
  | .null => [.null]
  | .bool b => [.bool b]
  | .number n => [.number n.literal]
  | .text s => [.text (some s)]
  | .array [] => [.openArray, .closeArray]
  | .array (v :: vs) => .openArray :: tokens v ++ itemTokens vs
  | .object [] => [.openObject, .closeObject]
  | .object ((k, v) :: fs) =>
    .openObject :: .text (some k) :: .colon :: tokens v ++ fieldTokens fs

def itemTokens : List Value → List Token
  | [] => [.closeArray]
  | v :: vs => .comma :: tokens v ++ itemTokens vs

def fieldTokens : List (String × Value) → List Token
  | [] => [.closeObject]
  | (k, v) :: fs => .comma :: .text (some k) :: .colon :: tokens v ++ fieldTokens fs

end

mutual

/-- The tree that is written like a value. -/
def tree : Value → Tree
  | .null => .null
  | .bool b => .bool b
  | .number n => .number n.literal
  | .text s => .text (some s)
  | .array vs => .array (trees vs)
  | .object fs => .object (fieldTrees fs)

def trees : List Value → List Tree
  | [] => []
  | v :: vs => tree v :: trees vs

def fieldTrees : List (String × Value) → List (Option String × Tree)
  | [] => []
  | (k, v) :: fs => (some k, tree v) :: fieldTrees fs

end

/-- A value of texts and of numbers without sign that fit into 64 bits, with distinct keys in each
object, in which containers are nested at most `d` deep. -/
inductive Plain : Nat → Value → Prop
  | null {d : Nat} : Plain d .null
  | bool {d : Nat} (b : Bool) : Plain d (.bool b)
  | number {d n : Nat} (h : n < UInt64.size) : Plain d (.ofNat n)
  | text {d : Nat} (s : String) : Plain d (.text s)
  | array {d : Nat} {vs : List Value} (h : ∀ v ∈ vs, Plain d v) : Plain (d + 1) (.array vs)
  | object {d : Nat} {fs : List (String × Value)} (hkeys : (Dictionary.keys fs).Nodup)
    (h : ∀ f ∈ fs, Plain d f.2) : Plain (d + 1) (.object fs)

/-! ## Texts are read as tokens -/

/-- The text of the value is read as its tokens, before whatever may follow it. -/
def Lexed (v : Value) : Prop :=
  ∀ {rest : List Char}, Stops rest → tokens? (v.render ++ rest) = (tokens? rest).map (v.tokens ++ ·)

/-- A number in front of more items stops. -/
theorem stops_renderItems (vs : List Value) (rest : List Char) :
    Stops (renderItems vs ++ rest) := by
  cases vs <;> exact stops_cons (by decide) _

theorem stops_renderFields (fs : List (String × Value)) (rest : List Char) :
    Stops (renderFields fs ++ rest) := by
  cases fs <;> exact stops_cons (by decide) _

/-- Items are told apart, if each of them is lexed. -/
theorem tokens?_renderItems {vs : List Value} (h : ∀ v ∈ vs, Lexed v) (rest : List Char) :
    tokens? (renderItems vs ++ rest) = (tokens? rest).map (itemTokens vs ++ ·) := by
  induction vs with
  | nil => exact tokens?_of_readToken? rfl rfl (Nat.lt_succ_self _)
  | cons v vs ih =>
    have hcomma : tokens? (renderItems (v :: vs) ++ rest)
        = (tokens? (v.render ++ (renderItems vs ++ rest))).map (.comma :: ·) := by
      rw [renderItems, List.append_assoc, List.cons_append]
      exact tokens?_of_readToken? rfl rfl (Nat.lt_succ_self _)
    rw [hcomma, h v List.mem_cons_self (stops_renderItems vs rest),
      ih fun w hw ↦ h w (List.mem_cons_of_mem v hw)]
    simp [itemTokens, Option.map_map, Function.comp_def]

/-- A field of an object, without the comma or brace before it. -/
theorem tokens?_field (k : String) {v : Value} (h : Lexed v) {rest : List Char}
    (hrest : Stops rest) :
    tokens? (quote k ++ ':' :: (v.render ++ rest))
      = (tokens? rest).map fun ts ↦ .text (some k) :: .colon :: (v.tokens ++ ts) := by
  rw [tokens?_quote, tokens?_of_readToken? rfl rfl (Nat.lt_succ_self _), h hrest]
  simp [Option.map_map, Function.comp_def]

/-- Fields are told apart, if the value of each of them is lexed. -/
theorem tokens?_renderFields {fs : List (String × Value)} (h : ∀ f ∈ fs, Lexed f.2)
    (rest : List Char) :
    tokens? (renderFields fs ++ rest) = (tokens? rest).map (fieldTokens fs ++ ·) := by
  induction fs with
  | nil => exact tokens?_of_readToken? rfl rfl (Nat.lt_succ_self _)
  | cons f fs ih =>
    obtain ⟨k, v⟩ := f
    have hcomma : tokens? (renderFields ((k, v) :: fs) ++ rest)
        = (tokens? (quote k ++ ':' :: (v.render ++ (renderFields fs ++ rest)))).map
          (.comma :: ·) := by
      simp only [renderFields, List.append_assoc, List.cons_append]
      exact tokens?_of_readToken? rfl rfl (Nat.lt_succ_self _)
    rw [hcomma, tokens?_field k (h _ List.mem_cons_self) (stops_renderFields fs rest),
      ih fun g hg ↦ h g (List.mem_cons_of_mem _ hg)]
    simp [fieldTokens, Option.map_map, Function.comp_def]

/-- A plain value is lexed, by induction on how it is built. -/
theorem Plain.lexed {d : Nat} {v : Value} (h : Plain d v) : Lexed v := by
  induction h with
  | null =>
    intro rest _
    exact tokens?_of_readToken? rfl rfl (length_lt_cons_append 'n' ['u', 'l', 'l'] [] rest)
  | bool b =>
    intro rest _
    cases b with
    | true =>
      exact tokens?_of_readToken? rfl rfl (length_lt_cons_append 't' ['r', 'u', 'e'] [] rest)
    | false =>
      exact tokens?_of_readToken? rfl rfl (length_lt_cons_append 'f' ['a', 'l', 's', 'e'] [] rest)
  | number =>
    intro rest hrest
    rw [ofNat, render, tokens, Number.render_ofNat, Number.literal_ofNat]
    exact tokens?_showNat _ hrest
  | text s =>
    intro rest _
    exact tokens?_quote s rest
  | @array d vs h ih =>
    intro rest _
    cases vs with
    | nil =>
      change tokens? ('[' :: ']' :: rest) = _
      rw [tokens?_of_readToken? rfl rfl (Nat.lt_succ_self _),
        tokens?_of_readToken? rfl rfl (Nat.lt_succ_self _)]
      simp [tokens, Option.map_map, Function.comp_def]
    | cons v vs =>
      -- No comma precedes the first item, so it is lexed by itself.
      have hopen : tokens? (render (.array (v :: vs)) ++ rest)
          = (tokens? (v.render ++ (renderItems vs ++ rest))).map (.openArray :: ·) := by
        rw [render, List.append_assoc, List.cons_append]
        exact tokens?_of_readToken? rfl rfl (Nat.lt_succ_self _)
      rw [hopen, ih v List.mem_cons_self (stops_renderItems vs rest),
        tokens?_renderItems fun w hw ↦ ih w (List.mem_cons_of_mem v hw)]
      simp [tokens, Option.map_map, Function.comp_def]
  | @object d fs hkeys h ih =>
    intro rest _
    cases fs with
    | nil =>
      change tokens? ('\x7b' :: '\x7d' :: rest) = _
      rw [tokens?_of_readToken? rfl rfl (Nat.lt_succ_self _),
        tokens?_of_readToken? rfl rfl (Nat.lt_succ_self _)]
      simp [tokens, Option.map_map, Function.comp_def]
    | cons f fs =>
      obtain ⟨k, v⟩ := f
      have hopen : tokens? (render (.object ((k, v) :: fs)) ++ rest)
          = (tokens? (quote k ++ ':' :: (v.render ++ (renderFields fs ++ rest)))).map
            (.openObject :: ·) := by
        simp only [render, List.append_assoc, List.cons_append]
        exact tokens?_of_readToken? rfl rfl (Nat.lt_succ_self _)
      rw [hopen, tokens?_field k (ih _ List.mem_cons_self) (stops_renderFields fs rest),
        tokens?_renderFields fun g hg ↦ ih g (List.mem_cons_of_mem _ hg)]
      simp [tokens, Option.map_map, Function.comp_def]

/-! ## Tokens are put together to trees -/

/-- The tokens of the value, where one may start, complete its tree in the containers around it. -/
def Parsed (v : Value) : Prop :=
  ∀ {goal : Goal}, goal = .value ∨ goal = .itemOrClose →
    ∀ (frames : List Frame) (more : List Token),
    (v.tokens ++ more).foldlM Progress.step ⟨goal, frames⟩
      = (Progress.complete v.tree frames).bind fun p ↦ more.foldlM Progress.step p

/-- Where a value may start, all tokens but a closing bracket are taken in the same way. -/
theorem step_of_goal {goal : Goal} (h : goal = .value ∨ goal = .itemOrClose) {t : Token}
    (ht : t ≠ .closeArray) (frames : List Frame) :
    Progress.step ⟨goal, frames⟩ t = Progress.startValue frames t := by
  obtain rfl | rfl := h
  · rfl
  · unfold Progress.step
    split <;> simp_all

/-- The tokens of items complete the array on top of the stack. -/
theorem foldlM_itemTokens {vs : List Value} (h : ∀ v ∈ vs, Parsed v) (done : List Tree)
    (frames : List Frame) (more : List Token) :
    (itemTokens vs ++ more).foldlM Progress.step ⟨.commaOrClose, .array done :: frames⟩
      = (Progress.complete (.array (done.reverse ++ trees vs)) frames).bind
        fun p ↦ more.foldlM Progress.step p := by
  induction vs generalizing done with
  | nil =>
    rw [trees, List.append_nil]
    rfl
  | cons v vs ih =>
    rw [itemTokens, List.append_assoc, List.cons_append, List.foldlM_cons]
    change (v.tokens ++ (itemTokens vs ++ more)).foldlM Progress.step
      ⟨.value, .array done :: frames⟩ = _
    rw [h v List.mem_cons_self (.inl rfl)]
    change (itemTokens vs ++ more).foldlM Progress.step
      ⟨.commaOrClose, .array (v.tree :: done) :: frames⟩ = _
    rw [ih fun w hw ↦ h w (List.mem_cons_of_mem v hw)]
    simp [trees]

/-- The tokens of a field, without the comma or brace before it. -/
theorem foldlM_field (k : String) {v : Value} (h : Parsed v) {goal : Goal}
    (hgoal : goal = .key ∨ goal = .keyOrClose) (done : List (Option String × Tree))
    (frames : List Frame) (more : List Token) :
    (.text (some k) :: .colon :: (v.tokens ++ more)).foldlM Progress.step
        ⟨goal, .object done :: frames⟩
      = more.foldlM Progress.step
        ⟨.commaOrClose, .object ((some k, v.tree) :: done) :: frames⟩ := by
  have hkey : Progress.step ⟨goal, .object done :: frames⟩ (.text (some k))
      = some ⟨.colon, .field done (some k) :: frames⟩ := by
    obtain rfl | rfl := hgoal <;> rfl
  rw [List.foldlM_cons, hkey]
  change (v.tokens ++ more).foldlM Progress.step ⟨.value, .field done (some k) :: frames⟩ = _
  rw [h (.inl rfl)]
  rfl

/-- The tokens of fields complete the object on top of the stack. -/
theorem foldlM_fieldTokens {fs : List (String × Value)} (h : ∀ f ∈ fs, Parsed f.2)
    (done : List (Option String × Tree)) (frames : List Frame) (more : List Token) :
    (fieldTokens fs ++ more).foldlM Progress.step ⟨.commaOrClose, .object done :: frames⟩
      = (Progress.complete (.object (done.reverse ++ fieldTrees fs)) frames).bind
        fun p ↦ more.foldlM Progress.step p := by
  induction fs generalizing done with
  | nil =>
    rw [fieldTrees, List.append_nil]
    rfl
  | cons f fs ih =>
    obtain ⟨k, v⟩ := f
    rw [fieldTokens, List.append_assoc, List.cons_append, List.foldlM_cons]
    change (.text (some k) :: .colon :: (v.tokens ++ (fieldTokens fs ++ more))).foldlM Progress.step
      ⟨.key, .object done :: frames⟩ = _
    rw [foldlM_field k (h _ List.mem_cons_self) (.inl rfl),
      ih fun g hg ↦ h g (List.mem_cons_of_mem _ hg)]
    simp [fieldTrees]

/-- The tokens of a plain value are parsed to its tree, by induction on how it is built. -/
theorem Plain.parsed {d : Nat} {v : Value} (h : Plain d v) : Parsed v := by
  -- The first token is taken like any that starts a value; what follows it is in the containers.
  induction h with
  | null =>
    intro goal hgoal frames more
    rw [tokens, List.cons_append, List.nil_append, List.foldlM_cons, step_of_goal hgoal (by simp)]
    rfl
  | bool b =>
    intro goal hgoal frames more
    rw [tokens, List.cons_append, List.nil_append, List.foldlM_cons, step_of_goal hgoal (by simp)]
    rfl
  | number =>
    intro goal hgoal frames more
    rw [ofNat, tokens, List.cons_append, List.nil_append, List.foldlM_cons,
      step_of_goal hgoal (by simp)]
    rfl
  | text s =>
    intro goal hgoal frames more
    rw [tokens, List.cons_append, List.nil_append, List.foldlM_cons, step_of_goal hgoal (by simp)]
    rfl
  | @array d vs h ih =>
    intro goal hgoal frames more
    cases vs with
    | nil =>
      rw [tokens, List.cons_append, List.foldlM_cons, step_of_goal hgoal (by simp)]
      rfl
    | cons v vs =>
      rw [tokens, List.append_assoc, List.cons_append, List.foldlM_cons,
        step_of_goal hgoal (by simp)]
      change (v.tokens ++ (itemTokens vs ++ more)).foldlM Progress.step
        ⟨.itemOrClose, .array [] :: frames⟩ = _
      rw [ih v List.mem_cons_self (.inr rfl)]
      exact foldlM_itemTokens (fun w hw ↦ ih w (List.mem_cons_of_mem v hw)) [v.tree] frames more
  | @object d fs hkeys h ih =>
    intro goal hgoal frames more
    cases fs with
    | nil =>
      rw [tokens, List.cons_append, List.foldlM_cons, step_of_goal hgoal (by simp)]
      rfl
    | cons f fs =>
      obtain ⟨k, v⟩ := f
      rw [tokens, List.append_assoc, List.cons_append, List.foldlM_cons,
        step_of_goal hgoal (by simp)]
      change (.text (some k) :: .colon :: (v.tokens ++ (fieldTokens fs ++ more))).foldlM
        Progress.step ⟨.keyOrClose, .object [] :: frames⟩ = _
      rw [foldlM_field k (ih _ List.mem_cons_self) (.inr rfl)]
      exact foldlM_fieldTokens (fun g hg ↦ ih g (List.mem_cons_of_mem _ hg)) [(some k, v.tree)]
        frames more

/-- The text of a value is read as the tree that is written like it. -/
theorem Plain.readTree {d : Nat} {v : Value} (h : Plain d v) :
    Tree.read? v.render = some v.tree := by
  have htokens := h.lexed stops_nil
  have hparsed := h.parsed (.inl rfl) [] []
  rw [List.append_nil] at htokens hparsed
  have hempty : tokens? [] = some [] := by
    rw [tokens?]
  rw [Tree.read?, htokens, hempty, Option.map_some, List.append_nil, Option.bind_eq_bind,
    Option.bind_some, Progress.start, hparsed]
  rfl

/-! ## Trees have values -/

/-- The trees of items have their values. -/
theorem toValues?_trees {vs : List Value} {depth : Nat}
    (h : ∀ v ∈ vs, Tree.toValue? depth v.tree = some v) :
    Tree.toValues? depth (trees vs) = some vs := by
  induction vs with
  | nil => rfl
  | cons v vs ih =>
    rw [trees, Tree.toValues?, h v List.mem_cons_self,
      ih fun w hw ↦ h w (List.mem_cons_of_mem v hw)]
    rfl

theorem toFields?_fieldTrees {fs : List (String × Value)} {depth : Nat}
    (h : ∀ f ∈ fs, Tree.toValue? depth f.2.tree = some f.2) :
    Tree.toFields? depth (fieldTrees fs) = some fs := by
  induction fs with
  | nil => rfl
  | cons f fs ih =>
    rw [fieldTrees, Tree.toFields?, h f List.mem_cons_self,
      ih fun g hg ↦ h g (List.mem_cons_of_mem f hg)]
    rfl

/-- The tree of a plain value has this value, unless it is too deep. -/
theorem Plain.toValue?_tree {d : Nat} {v : Value} (h : Plain d v) {depth : Nat} (hd : d < depth) :
    Tree.toValue? depth v.tree = some v := by
  induction h generalizing depth with
  | null => rfl
  | bool => rfl
  | text => rfl
  | number hn =>
    rw [ofNat, tree, Tree.toValue?, Number.literal_ofNat, Literal.number?,
      Literal.integer?_ofNat hn]
    rfl
  | array h ih =>
    rw [tree, Tree.toValue?, if_neg (by omega),
      toValues?_trees fun v hv ↦ ih v hv (by omega)]
    rfl
  | object hkeys h ih =>
    rw [tree, Tree.toValue?, if_neg (by omega),
      toFields?_fieldTrees fun f hf ↦ ih f hf (by omega)]
    simp [Dictionary.ofList_of_nodup hkeys]

/-- The text of a value is read as this value. -/
theorem Plain.read?_render {d : Nat} {v : Value} (h : Plain d v) (hd : d < depthLimit) :
    Value.read? v.render = some v := by
  rw [Value.read?, h.readTree, Option.bind_some, h.toValue?_tree hd]

/-! ## Texts are on one line -/

/-- A line feed is escaped like all control characters. -/
theorem lineFeed_not_mem_escape (c : Char) : '\n' ∉ escape c := by
  have hhex : ∀ n < 0x20, '\n' ∉ ['\\', 'u', '0', '0', hexDigit (n / 16), hexDigit (n % 16)] := by
    decide
  unfold escape
  split
  · decide
  · decide
  · decide
  · decide
  · decide
  · next hne _ _ =>
    split
    · decide
    split
    · decide
    split
    · next h => exact hhex _ h
    · exact fun hmem ↦ hne (List.mem_singleton.1 hmem).symm

theorem lineFeed_not_mem_quote (s : String) : '\n' ∉ quote s := by
  simp [quote, lineFeed_not_mem_escape]

theorem lineFeed_not_mem_renderItems {vs : List Value} (h : ∀ v ∈ vs, '\n' ∉ v.render) :
    '\n' ∉ renderItems vs := by
  induction vs with
  | nil => decide
  | cons v vs ih =>
    simp [renderItems, h v List.mem_cons_self, ih fun w hw ↦ h w (List.mem_cons_of_mem v hw)]

theorem lineFeed_not_mem_renderFields {fs : List (String × Value)}
    (h : ∀ f ∈ fs, '\n' ∉ f.2.render) : '\n' ∉ renderFields fs := by
  induction fs with
  | nil => decide
  | cons f fs ih =>
    obtain ⟨k, v⟩ := f
    simp [renderFields, lineFeed_not_mem_quote, h _ List.mem_cons_self,
      ih fun g hg ↦ h g (List.mem_cons_of_mem _ hg)]

/-- The text of a plain value is on one line. -/
theorem Plain.lineFeed_not_mem_render {d : Nat} {v : Value} (h : Plain d v) : '\n' ∉ v.render := by
  induction h with
  | null => decide
  | bool b => cases b <;> decide
  | number =>
    rw [ofNat, render, Number.render_ofNat]
    exact not_mem_showNat (by decide) _
  | text s => exact lineFeed_not_mem_quote s
  | @array d vs h ih =>
    cases vs with
    | nil => decide
    | cons v vs =>
      simp [render, ih v List.mem_cons_self,
        lineFeed_not_mem_renderItems fun w hw ↦ ih w (List.mem_cons_of_mem v hw)]
  | @object d fs hkeys h ih =>
    cases fs with
    | nil => decide
    | cons f fs =>
      obtain ⟨k, v⟩ := f
      simp [render, lineFeed_not_mem_quote, ih _ List.mem_cons_self,
        lineFeed_not_mem_renderFields fun g hg ↦ ih g (List.mem_cons_of_mem _ hg)]

end Value

end BalancerSync.Json
