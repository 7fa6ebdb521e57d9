import DpIntegrator.Functions.ErrorClassification
import DpIntegrator.Governor.Requests
import DpIntegrator.Js.Patterns
import Mathlib.Data.List.ProdSigma

/-!
# The class of a governor timeout

The message with which `acquireSlot` gives up is written in the core and classified by its text in
the functions. In its own words no pattern of the classification starts, whatever the timeout, so
that the class is decided by how the account id reads.
-/

namespace DpIntegrator

open Js (Avoids StartsWith)

variable {prev : Option Char} {cs digits id : List Char} {R : Char → Char → Prop}

/-! ## The words of the message -/

/-- The characters that numbers are written with. -/
def numberChars : List Char := "0123456789-.InfityNa".toList

theorem mem_numberChars_of_isDigit {c : Char} (h : c.isDigit = true) : c ∈ numberChars := by
  have hcode : 48 ≤ c.toNat ∧ c.toNat ≤ 57 := by
    simpa [Char.isDigit, UInt32.le_iff_toNat_le] using h
  have hchar := Char.ofNat_toNat c
  generalize c.toNat = n at hcode hchar
  obtain ⟨hlow, hhigh⟩ := hcode
  subst hchar
  interval_cases n <;> decide

theorem mem_numberChars_toDigits {n : ℕ} : ∀ c ∈ Nat.toDigits 10 n, c ∈ numberChars :=
  fun _ hc => mem_numberChars_of_isDigit (Nat.isDigit_of_mem_toDigits (by omega) (by omega) hc)

theorem mem_numberChars_toText (x : Js.Number) : ∀ c ∈ x.toText.toList, c ∈ numberChars := by
  cases x with
  | fin q =>
    unfold Js.Number.toText
    simp only [String.toList_ofList]
    refine List.forall_mem_append.mpr ⟨List.forall_mem_append.mpr ⟨?_, mem_numberChars_toDigits⟩, ?_⟩
    · split
      · exact List.all_iff_forall_prop.mp (by decide)
      · simp
    · split
      · simp
      · refine List.forall_mem_cons.mpr ⟨by decide, fun c hc => ?_⟩
        obtain hzero | hc := List.mem_append.mp hc
        · rw [List.eq_of_mem_replicate hzero]
          decide
        · exact mem_numberChars_toDigits c hc
  | inf negative => cases negative <;> exact List.all_iff_forall_prop.mp (by decide)
  | nan => exact List.all_iff_forall_prop.mp (by decide)

/-- The message up to its timeout. -/
def governorWords : List Char := "Governor: timed out after ".toList

/-- The message from its timeout up to the quote before the account id. -/
def waitingWords : List Char := "ms waiting for slot on NS account '".toList

/-- The message up to the account id, for a timeout that is written `digits`. -/
def timeoutFront (digits : List Char) : List Char := governorWords ++ (digits ++ waitingWords)

theorem governorWords_getLast? : governorWords.getLast? = some ' ' := by decide

theorem waitingWords_head? : waitingWords.head? = some 'm' := by decide

/-- The characters that may stand side by side in a written number and at its ends. -/
def neighbours : List (Char × Char) := (' ' :: numberChars) ×ˢ ('m' :: numberChars)

/-- The front is a chain where its words are, and the characters of numbers among themselves and
with their neighbours. -/
theorem isChain_timeoutFront (hdigits : ∀ c ∈ digits, c ∈ numberChars)
    (hhead : governorWords.IsChain R) (htail : waitingWords.IsChain R)
    (hnum : ∀ p ∈ neighbours, R p.1 p.2) :
    (timeoutFront digits).IsChain R := by
  have hpair {x y : Char} (hx : x ∈ ' ' :: numberChars) (hy : y ∈ 'm' :: numberChars) : R x y :=
    hnum (x, y) (List.pair_mem_product.mpr ⟨hx, hy⟩)
  have hchain : digits.IsChain R := by
    refine List.Pairwise.isChain (List.pairwise_iff_forall_sublist.mpr fun {x y} hsub => ?_)
    have hxy := hsub.subset
    exact hpair (List.mem_cons_of_mem _ (hdigits x (hxy (by simp))))
      (List.mem_cons_of_mem _ (hdigits y (hxy (by simp))))
  have htail' : (digits ++ waitingWords).IsChain R := by
    refine List.isChain_append.mpr ⟨hchain, htail, fun x hx y hy => ?_⟩
    rw [waitingWords_head?] at hy
    cases hy
    exact hpair (List.mem_cons_of_mem _ (hdigits x (List.mem_of_getLast? hx))) (by simp)
  refine List.isChain_append.mpr ⟨hhead, htail', fun x hx y hy => ?_⟩
  rw [governorWords_getLast?] at hx
  cases hx
  refine hpair (x := ' ') (by simp) ?_
  rw [List.head?_append, waitingWords_head?] at hy
  cases hhead? : digits.head? with
  | none =>
    rw [hhead?] at hy
    cases hy
    simp
  | some d =>
    rw [hhead?] at hy
    cases hy
    exact List.mem_cons_of_mem _ (hdigits y (List.mem_of_head? hhead?))

theorem timeoutFront_eq_append_quote (digits : List Char) : timeoutFront digits =
    governorWords ++ (digits ++ waitingWords.dropLast) ++ ['\''] := by
  have hwords : waitingWords = waitingWords.dropLast ++ ['\''] := by decide
  rw [List.append_assoc, List.append_assoc, ← hwords]
  rfl

/-- The characters of a timeout message. -/
theorem timeoutMessage_toList (locals : Acquire) : locals.timeoutMessage.toList =
    timeoutFront locals.timeout.toText.toList ++ (locals.nsAccountId.toList ++ ['\'']) := by
  have hquote : "'".toList = ['\''] := by decide
  unfold Acquire.timeoutMessage timeoutFront governorWords waitingWords
  rw [String.toList_append, String.toList_append, String.toList_append, String.toList_append,
    hquote]
  simp only [List.append_assoc]

/-! ## Patterns at the end of the message -/

theorem isSpace_quote : Js.isSpace '\'' = false := by decide

theorem startsWith_matchReturned : StartsWith matchReturned 'r' 'e' := by
  intro prev c cs h
  have hword : Js.afterWord ('r' :: 'e' :: "turned ".toList) (c :: cs) = none :=
    Js.afterWord_eq_none h
  exact congrArg (Option.bind · Js.threeDigits) hword

theorem startsWith_matchStatus : StartsWith matchStatus 's' 't' := by
  intro prev c cs h
  have hword : Js.afterWord ('s' :: 't' :: "atus".toList) (c :: cs) = none := Js.afterWord_eq_none h
  unfold matchStatus
  split
  · rfl
  · exact congrArg (Option.bind · _) hword

theorem startsWith_matchHttp : StartsWith matchHttp 'h' 't' := by
  intro prev c cs h
  have hword : Js.afterWord ('h' :: 't' :: "tp".toList) (c :: cs) = none := Js.afterWord_eq_none h
  unfold matchHttp
  split
  · rfl
  · exact congrArg (Option.bind · _) hword

theorem matchReturned_quote (cs : List Char) :
    matchReturned prev (cs ++ ['\'']) = matchReturned prev cs := by
  unfold matchReturned
  rw [Js.afterWord_append_singleton (by decide), Option.bind_map]
  exact Option.bind_congr fun rest _ => Js.threeDigits_append_singleton (by decide)

theorem matchHttp_quote (cs : List Char) : matchHttp prev (cs ++ ['\'']) = matchHttp prev cs := by
  unfold matchHttp
  rw [Js.afterWord_append_singleton (by decide), Option.bind_map]
  split
  · rfl
  · refine Option.bind_congr fun rest _ => ?_
    simp only [Function.comp_apply]
    rw [Js.takeWhile_append_singleton isSpace_quote, Js.dropWhile_append_singleton isSpace_quote,
      Js.threeDigits_append_singleton (by decide)]

theorem matchStatus_quote (cs : List Char) :
    matchStatus prev (cs ++ ['\'']) = matchStatus prev cs := by
  have hquote : ('\'' == '=' || '\'' == ':' || Js.isSpace '\'') = false := by decide
  unfold matchStatus
  rw [Js.afterWord_append_singleton (by decide), Option.bind_map]
  split
  · rfl
  · refine Option.bind_congr fun rest _ => ?_
    simp only [Function.comp_apply]
    rw [Js.takeWhile_append_singleton hquote, Js.dropWhile_append_singleton hquote,
      Js.threeDigits_append_singleton (by decide)]

theorem isPhrase_quote (cs : List Char) : isPhrase (cs ++ ['\'']) = isPhrase cs := by
  have hend (o : Option (List Char)) :
      (o.map (· ++ ['\''])).any Js.atWordEnd = o.any Js.atWordEnd := by
    cases o with
    | none => rfl
    | some rest => exact Js.atWordEnd_append_singleton (by decide)
  have hword (word : String) (hq : '\''.toLower ∉ word.toList) :
      (Js.afterWord word.toList (cs ++ ['\''])).any Js.atWordEnd =
        (Js.afterWord word.toList cs).any Js.atWordEnd := by
    rw [Js.afterWord_append_singleton hq, hend]
  have hfound : ((Js.afterWord "not".toList (cs ++ ['\''])).bind fun rest =>
      if (rest.takeWhile Js.isSpace).isEmpty then none
      else Js.afterWord "found".toList (rest.dropWhile Js.isSpace)) =
      ((Js.afterWord "not".toList cs).bind fun rest =>
        if (rest.takeWhile Js.isSpace).isEmpty then none
        else Js.afterWord "found".toList (rest.dropWhile Js.isSpace)).map (· ++ ['\'']) := by
    rw [Js.afterWord_append_singleton (by decide), Option.bind_map]
    cases Js.afterWord "not".toList cs with
    | none => rfl
    | some rest =>
      simp only [Option.bind_some, Function.comp_apply]
      rw [Js.takeWhile_append_singleton isSpace_quote, Js.dropWhile_append_singleton isSpace_quote,
        Js.afterWord_append_singleton (by decide)]
      split <;> rfl
  unfold isPhrase
  dsimp only
  rw [hfound, hend]
  congr 1
  simp only [List.any_cons, List.any_nil, hword "service" (by decide), hword "internal" (by decide),
    hword "gateway" (by decide), hword "bad" (by decide), hword "unauthorized" (by decide),
    hword "forbidden" (by decide), hword "conflict" (by decide)]

theorem matchPhrase_quote (cs : List Char) :
    matchPhrase prev (cs ++ ['\'']) = matchPhrase prev cs := by
  unfold matchPhrase
  split
  · rfl
  · match cs with
    | [] => rfl
    | [a] => rfl
    | [a, b] =>
      have hdigit : '\''.isDigit = false := by decide
      simp [hdigit]
    | a :: b :: c :: rest =>
      simp only [List.cons_append]
      rw [Js.takeWhile_append_singleton isSpace_quote, Js.dropWhile_append_singleton isSpace_quote,
        isPhrase_quote]

/-- In text where no space follows a digit and whose last character is none, no phrase starts. -/
theorem matchPhrase_front {q : Char} {front rest : List Char} (hne : front ≠ [])
    (hchain : front.IsChain fun x y => ¬(x.isDigit = true ∧ Js.isSpace y = true))
    (hlast : front.getLast? = some q) (hq : q.isDigit = false) :
    matchPhrase prev (front ++ rest) = none := by
  have hfour : q ≠ '4' ∧ q ≠ '5' := by
    constructor <;> (rintro rfl; cases hq)
  unfold matchPhrase
  split
  · rfl
  match front, hne with
  | [a], _ =>
    obtain rfl : a = q := Option.some.inj hlast
    rcases rest with _ | ⟨b, _ | ⟨c, rest⟩⟩ <;> simp [hfour]
  | [a, b], _ =>
    obtain rfl : b = q := Option.some.inj hlast
    rcases rest with _ | ⟨c, rest⟩ <;> simp [hq]
  | [a, b, c], _ =>
    obtain rfl : c = q := Option.some.inj hlast
    simp [hq]
  | a :: b :: c :: d :: more, _ =>
    simp only [List.cons_append]
    by_cases hc : c.isDigit = true
    · have hd : Js.isSpace d = false := by
        have hpair := (List.isChain_cons.mp (List.isChain_cons.mp
          (List.isChain_cons.mp hchain).2).2).1 d (by simp)
        simpa [hc] using hpair
      rw [List.takeWhile_cons_of_neg (by simp [hd])]
      simp
    · simp [hc]

/-! ## The class of the message -/

section Front

/-- In the front a pair of letters is avoided that its words and the characters of numbers avoid. -/
theorem avoids_timeoutFront {a b : Char} (hdigits : ∀ c ∈ digits, c ∈ numberChars)
    (hhead : Avoids a b governorWords)
    (htail : Avoids a b waitingWords)
    (hnum : ∀ p ∈ neighbours, ¬(p.1.toLower = a ∧ p.2.toLower = b)) :
    Avoids a b (timeoutFront digits) := isChain_timeoutFront hdigits hhead htail hnum

/-- A search passes over the front. -/
theorem search_timeoutFront {α : Type} {m : Js.Matcher α} {a b : Char} (hm : StartsWith m a b)
    (havoids : Avoids a b (timeoutFront digits)) (ha : '\''.toLower ≠ a)
    (hquote : ∀ prev cs, m prev (cs ++ ['\'']) = m prev cs) (hnil : ∀ prev, m prev [] = none)
    (hprev : ∀ cs, m (some '\'') cs = m none cs) :
    Js.search m none (timeoutFront digits ++ (id ++ ['\''])) = Js.search m none id := by
  rw [timeoutFront_eq_append_quote] at havoids ⊢
  rw [List.append_assoc, List.singleton_append, Js.search_append_of_avoids hm havoids ha,
    Js.search_append_singleton hquote hnil]
  exact Js.search_congr_prev (hprev id)

theorem search_matchPhrase_timeoutFront (hdigits : ∀ c ∈ digits, c ∈ numberChars) :
    Js.search matchPhrase none (timeoutFront digits ++ (id ++ ['\''])) =
      Js.search matchPhrase none id := by
  have hchain : (timeoutFront digits).IsChain
      fun x y => ¬(x.isDigit = true ∧ Js.isSpace y = true) :=
    isChain_timeoutFront hdigits (by decide) (by decide) (by decide +kernel)
  have hlast : (timeoutFront digits).getLast? = some '\'' := by
    rw [timeoutFront_eq_append_quote, List.getLast?_append]
    rfl
  have hne : timeoutFront digits ≠ [] := by
    intro hnil
    rw [hnil] at hlast
    cases hlast
  have hsearch : Js.search matchPhrase none (timeoutFront digits ++ (id ++ ['\''])) =
      Js.search matchPhrase (timeoutFront digits).getLast? (id ++ ['\'']) := by
    refine Js.search_append_of_none hne fun before c after heq => ?_
    rw [heq] at hchain hlast
    have hend : (c :: after).getLast? = some '\'' := by
      rw [← hlast, List.getLast?_append, List.getLast?_cons]
      rfl
    exact matchPhrase_front (by simp) (List.isChain_append.mp hchain).2.1 hend (by decide)
  rw [hsearch, hlast, Js.search_append_singleton (fun _ => matchPhrase_quote) fun _ => by
    simp [matchPhrase]]
  exact Js.search_congr_prev rfl

/-- The status that is read off a timeout message is read off the account id. -/
theorem extractHttpStatus_timeout (locals : Acquire) :
    extractHttpStatus locals.timeoutMessage = extractHttpStatus locals.nsAccountId := by
  have hdigits := mem_numberChars_toText locals.timeout
  unfold extractHttpStatus
  dsimp only
  rw [timeoutMessage_toList]
  rw [search_timeoutFront startsWith_matchReturned
      (avoids_timeoutFront hdigits (by decide) (by decide) (by decide +kernel)) (by decide)
      (fun _ => matchReturned_quote) (fun _ => rfl) (fun _ => rfl),
    search_timeoutFront startsWith_matchStatus
      (avoids_timeoutFront hdigits (by decide) (by decide) (by decide +kernel)) (by decide)
      (fun _ => matchStatus_quote) (fun _ => by simp [matchStatus, Js.afterWord]) (fun _ => rfl),
    search_timeoutFront startsWith_matchHttp
      (avoids_timeoutFront hdigits (by decide) (by decide) (by decide +kernel)) (by decide)
      (fun _ => matchHttp_quote) (fun _ => by simp [matchHttp, Js.afterWord]) (fun _ => rfl),
    search_matchPhrase_timeoutFront hdigits]

/-- In lower case the front has one letter for each of its own. -/
theorem lowerChars_timeoutFront (hdigits : ∀ c ∈ digits, c ∈ numberChars) :
    (timeoutFront digits).flatMap Js.lowerChar = (timeoutFront digits).map Char.toLower := by
  have hlower : ∀ c ∈ timeoutFront digits, Js.lowerChar c = [c.toLower] := by
    have hwords : ∀ c ∈ governorWords ++ numberChars ++ waitingWords,
        Js.lowerChar c = [c.toLower] := List.all_iff_forall_prop.mp (by decide)
    intro c hc
    simp only [timeoutFront, List.mem_append] at hc
    refine hwords c ?_
    simp only [List.mem_append]
    obtain hc | hc | hc := hc
    · exact .inl (.inl hc)
    · exact .inl (.inr (hdigits c hc))
    · exact .inr hc
  rw [List.flatMap_congr hlower, List.map_eq_flatMap]

/-- A word that the front avoids is in the message if and only if it is in the account id. -/
theorem includes_timeout {a b : Char} {needle : List Char} {word : String} (locals : Acquire)
    (hword : word.toList = a :: b :: needle)
    (havoids : Avoids a b (timeoutFront locals.timeout.toText.toList)) (ha : '\''.toLower ≠ a)
    (hquote : '\'' ∉ word.toList) :
    Js.includes (Js.toLowerCase locals.timeoutMessage) word =
      Js.includes (Js.toLowerCase locals.nsAccountId) word := by
  unfold Js.includes Js.toLowerCase
  rw [String.toList_ofList, String.toList_ofList, timeoutMessage_toList, List.flatMap_append,
    List.flatMap_append, lowerChars_timeoutFront (mem_numberChars_toText _)]
  rw [timeoutFront_eq_append_quote] at havoids ⊢
  rw [hword] at hquote ⊢
  rw [Js.occurs_append_of_avoids havoids ha]
  exact Js.occurs_append_singleton hquote (by simp)

/-- A timeout message is of a network failure if and only if the account id reads so. -/
theorem isNetworkText_timeout (locals : Acquire) :
    isNetworkText (Js.toLowerCase locals.timeoutMessage) =
      isNetworkText (Js.toLowerCase locals.nsAccountId) := by
  have hdigits := mem_numberChars_toText locals.timeout
  have hincludes {a b : Char} {needle : List Char} {word : String}
      (hword : word.toList = a :: b :: needle)
      (hhead : Avoids a b governorWords) (htail : Avoids a b waitingWords)
      (hnum : ∀ p ∈ neighbours, ¬(p.1.toLower = a ∧ p.2.toLower = b))
      (ha : '\''.toLower ≠ a) (hquote : '\'' ∉ word.toList) :
      Js.includes (Js.toLowerCase locals.timeoutMessage) word =
        Js.includes (Js.toLowerCase locals.nsAccountId) word :=
    includes_timeout locals hword (avoids_timeoutFront hdigits hhead htail hnum) ha hquote
  unfold isNetworkText
  simp only [List.any_cons, List.any_nil]
  rw [@hincludes 'e' 'c' "onnreset".toList "econnreset" (by decide) (by decide) (by decide)
      (by decide +kernel) (by decide) (by decide),
    @hincludes 'e' 't' "imedout".toList "etimedout" (by decide) (by decide) (by decide)
      (by decide +kernel) (by decide) (by decide),
    @hincludes 's' 'o' "cket hang up".toList "socket hang up" (by decide) (by decide) (by decide)
      (by decide +kernel) (by decide) (by decide),
    @hincludes 'n' 'e' "twork request failed".toList "network request failed" (by decide)
      (by decide) (by decide) (by decide +kernel) (by decide) (by decide),
    @hincludes 'f' 'e' "tch failed".toList "fetch failed" (by decide) (by decide) (by decide)
      (by decide +kernel) (by decide) (by decide)]

/-- The account id, read as a message, names a status that is retried or a network failure. -/
def readsAsRetryable (nsAccountId : String) : Bool :=
  match (extractHttpStatus nsAccountId).bind classOfStatus with
  | some cls => shouldRetry cls
  | none => isNetworkText (Js.toLowerCase nsAccountId)

/-- A timeout is retried if and only if the account id reads so. -/
theorem shouldRetry_timeout (locals : Acquire) :
    shouldRetry (classOfMessage locals.timeoutMessage) = readsAsRetryable locals.nsAccountId := by
  unfold classOfMessage readsAsRetryable
  rw [extractHttpStatus_timeout]
  cases (extractHttpStatus locals.nsAccountId).bind classOfStatus with
  | some cls => rfl
  | none =>
    dsimp only
    rw [isNetworkText_timeout]
    cases hnetwork : isNetworkText (Js.toLowerCase locals.nsAccountId) with
    | true => rfl
    | false =>
      simp only [Bool.false_eq_true, if_false]
      split <;> rfl

end Front

end DpIntegrator
