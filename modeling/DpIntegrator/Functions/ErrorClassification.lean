import DpIntegrator.NetSuite.SdkGateway

/-!
# Classification of pipeline errors

Maps a thrown value to an error class. Errors of the NetSuite SDK are told by their
name and mapped by their codes; of other errors only the text of the message is left,
in which an HTTP status is looked for.
-/

namespace DpIntegrator

/-! ## HTTP statuses in messages -/

/-- `returned (\d{3})\b`. -/
def matchReturned : Js.Matcher ℕ := fun _ cs =>
  (Js.afterWord "returned ".toList cs).bind Js.threeDigits

/-- `\bstatus[=:\s]+(\d{3})\b`. -/
def matchStatus : Js.Matcher ℕ := fun prev cs =>
  if !Js.atWordStart prev then none
  else (Js.afterWord "status".toList cs).bind fun rest =>
    let isSeparator (c : Char) : Bool := c == '=' || c == ':' || Js.isSpace c
    if (rest.takeWhile isSeparator).isEmpty then none
    else Js.threeDigits (rest.dropWhile isSeparator)

/-- `\bHTTP\s+(\d{3})\b`. -/
def matchHttp : Js.Matcher ℕ := fun prev cs =>
  if !Js.atWordStart prev then none
  else (Js.afterWord "http".toList cs).bind fun rest =>
    if (rest.takeWhile Js.isSpace).isEmpty then none
    else Js.threeDigits (rest.dropWhile Js.isSpace)

/-- `(Service|Internal|Gateway|Bad|Unauthorized|Forbidden|Not\s+Found|Conflict)\b` at the
front. -/
def isPhrase (cs : List Char) : Bool :=
  let ends (rest : Option (List Char)) : Bool := rest.any Js.atWordEnd
  (["service", "internal", "gateway", "bad", "unauthorized", "forbidden", "conflict"].any
    fun word => ends (Js.afterWord word.toList cs)) ||
  ends ((Js.afterWord "not".toList cs).bind fun rest =>
    if (rest.takeWhile Js.isSpace).isEmpty then none
    else Js.afterWord "found".toList (rest.dropWhile Js.isSpace))

/-- `\b([45]\d{2})\s+(Service|...)\b`. -/
def matchPhrase : Js.Matcher ℕ := fun prev cs =>
  if !Js.atWordStart prev then none
  else match cs with
    | a :: b :: c :: rest =>
      if (a == '4' || a == '5') && b.isDigit && c.isDigit &&
        !(rest.takeWhile Js.isSpace).isEmpty && isPhrase (rest.dropWhile Js.isSpace)
      then some (Nat.ofDigitChars 10 [a, b, c] 0) else none
    | _ => none

/-- The status that a message names, by the first pattern that occurs in it. -/
def extractHttpStatus (message : String) : Option ℕ :=
  let find (m : Js.Matcher ℕ) := Js.search m none message.toList
  (find matchReturned).or ((find matchStatus).or ((find matchHttp).or (find matchPhrase)))

/-! ## Classes -/

/-- The class that an HTTP status decides. -/
def classOfStatus (status : ℕ) : Option ErrorClass :=
  if status = 401 ∨ status = 403 then some .auth
  else if status = 429 then some .transient
  else if 500 ≤ status ∧ status < 600 then some .transient
  else if 400 ≤ status ∧ status < 500 then some .data
  else none

/-- A message of a network failure, in lower case. -/
def isNetworkText (lc : String) : Bool :=
  ["econnreset", "etimedout", "socket hang up", "network request failed", "fetch failed"].any
    (Js.includes lc)

/-- The class of an error that is told by its message only. -/
def classOfMessage (message : String) : ErrorClass :=
  match (extractHttpStatus message).bind classOfStatus with
  | some cls => cls
  | none =>
    let lc := Js.toLowerCase message
    if isNetworkText lc then .transient
    else if "shopifyhttpgateway.getorder: graphql errors".toList.isPrefixOf lc.toList then .data
    else .unknown

/-- The class of a value thrown in the order pipeline. -/
def classifyHandlerError (sdk : NetSuiteSdk) (err : Thrown) : ErrorClass :=
  if err.isOrderNotFound then .data
  else match err with
    | .error e =>
      if e.name = "NetSuiteError" then mapNetSuiteError sdk err else classOfMessage e.message
    | _ => .unknown

/-- Classes for which the handler throws so that the message is delivered again. -/
def shouldRetry : ErrorClass → Bool
  | .transient | .auth => true
  | _ => false

/-- The status after `returned` decides before one after `status=`. -/
example : extractHttpStatus "NS upsert status=503 x returned 404: y" = some 404 := by
  decide +kernel

end DpIntegrator
