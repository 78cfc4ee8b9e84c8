import LorePia.Domain.Machine
import LorePia.Domain.Slice

namespace LorePia.Evidence

open Lib

/-!
# Evidence — the redactor

What discovery keeps of a fetched document: its text is cut, its entities are decoded, and line by
line whatever may be a credential is replaced by a marker, in seven passes that look at bytes and
slice where they stopped.  `none` stands for a panic, or for a loop that does not end.

The entropy of a token is measured in floating point, so it is a parameter.

* `redactLoop` — the loop that four of the passes share;
* `redactLine` — the passes over a line;
* `redactAndBound` — the text that is kept.
-/

def redactionMarker : String := "[REDACTED]"
def truncationMarker : String := "\n[TRUNCATED]"
def maxRedactionScanBytes : Nat := 256 * 1024

/-- `shannon_entropy_bits_per_byte(bytes) >= 4.0`. -/
structure EntropyMeter where
  atLeastFourBits : Bytes → Bool

/-! ### Classes of bytes and characters -/

variable (byte : UInt8)

/-- `u8::is_ascii_whitespace`. -/
def isWhitespaceByte : Bool :=
  byte == 0x20 || byte == 0x09 || byte == 0x0A || byte == 0x0C || byte == 0x0D

def isLowercaseByte : Bool := 0x61 ≤ byte && byte ≤ 0x7A
def isUppercaseByte : Bool := 0x41 ≤ byte && byte ≤ 0x5A
def isDigitByte : Bool := 0x30 ≤ byte && byte ≤ 0x39

/-- `u8::is_ascii_alphanumeric`. -/
def isAlphanumericByte : Bool :=
  isLowercaseByte byte || isUppercaseByte byte || isDigitByte byte

/-- `u8::is_ascii_graphic`. -/
def isGraphicByte : Bool := 0x21 ≤ byte && byte ≤ 0x7E

/-- `u8::is_ascii_hexdigit`. -/
def isHexDigitByte : Bool :=
  isDigitByte byte || (0x61 ≤ byte && byte ≤ 0x66) || (0x41 ≤ byte && byte ≤ 0x46)

/-- `matches!` with the ASCII characters of a text. -/
def isOneOf (characters : String) (byte : UInt8) : Bool := (asBytes characters).contains byte

/-- `char::is_ascii_whitespace`. -/
def isAsciiWhitespace (c : Char) : Bool := c ∈ [' ', '\t', '\n', '\x0C', '\r']

/-- `char::is_ascii_punctuation`. -/
def isAsciiPunctuation (c : Char) : Bool :=
  0x21 ≤ c.val && c.val ≤ 0x7E && !isAsciiAlphanumeric c

/-- `str::trim_matches`. -/
def trimMatches (p : Char → Bool) (value : String) : String :=
  String.ofList (((value.toList.dropWhile p).reverse.dropWhile p).reverse)

/-- `str::trim_start`. -/
def trimStart (value : String) : String := String.ofList (value.toList.dropWhile isWhitespace)

/-- `str::split_once` at a character: what stands before and behind it. -/
def splitOnce (separator : Char) (value : String) : Option (String × String) :=
  if separator ∈ value.toList then
    some (String.ofList (value.toList.takeWhile (· != separator)),
      String.ofList ((value.toList.dropWhile (· != separator)).drop 1))
  else none

/-! ### Names of sensitive fields -/

/-- `u8::to_ascii_lowercase`. -/
def toLowercaseByte : UInt8 := if isUppercaseByte byte then byte + 32 else byte

def normalizedName (value : String) : Bytes :=
  ((asBytes value).filter isAlphanumericByte).map toLowercaseByte

def sensitiveQueryKeys : List String :=
  ["apikey", "xapikey", "key", "token", "accesstoken", "refreshtoken", "idtoken", "securitytoken",
    "xamzcredential", "xamzsignature", "xamzsecuritytoken", "xgoogcredential", "xgoogsignature",
    "auth", "authorization", "credential", "credentials", "secret", "clientsecret", "password",
    "passwd", "signature", "sig", "code", "jwt", "session", "sessionid", "ticket"]

def sensitiveQuerySuffixes : List String :=
  ["apikey", "token", "credential", "secret", "password", "signature", "session", "ticket"]

/-- `is_sensitive_query_key` of the URL policy. -/
def isSensitiveQueryKey (key : String) : Bool :=
  (sensitiveQueryKeys.any fun name => normalizedName key == asBytes name) ||
    sensitiveQuerySuffixes.any fun suffix => decide (asBytes suffix <:+ normalizedName key)

def isSensitiveHeaderName (value : String) : Bool :=
  value ∈ ["authorization", "proxy-authorization", "x-api-key", "api-key", "cookie", "set-cookie"]

def sensitiveFieldNames : List String :=
  ["authorization", "proxyauthorization", "xapikey", "apikey", "cookie", "setcookie", "password",
    "passwd", "passphrase", "secret", "clientsecret", "apisecret", "credential", "credentials",
    "privatekey", "sessionid"]

def isSensitiveFieldName (value : String) : Bool :=
  isSensitiveHeaderName value || isSensitiveQueryKey value ||
    sensitiveFieldNames.any fun name => normalizedName value == asBytes name

/-! ### Opaque secrets -/

def isOpaqueTokenByte : Bool := isAlphanumericByte byte || isOneOf "_-.+=/" byte

def looksLikeJwt (value : String) : Bool :=
  match splitAt ['.'] value with
  | [header, payload, signature] =>
    [header, payload, signature].all fun segment =>
      8 ≤ byteLen segment &&
        (asBytes segment).all fun byte => isAlphanumericByte byte || isOneOf "_-" byte
  | _ => false

variable (bytes : Bytes)

def distinctAsciiBytes : Nat :=
  (bytes.filter (· < 128)).eraseDups.length

/-- How many of lowercase letters, uppercase letters and digits there are. -/
def characterClasses : Nat :=
  [isLowercaseByte, isUppercaseByte, isDigitByte].countP fun p => bytes.any p

variable (M : EntropyMeter)

/-- `none` where the length of the token exceeds a `u32`. -/
def looksLikeOpaqueSecret (value : String) : Option Bool :=
  let value := trimMatches
    (fun c => isAsciiPunctuation c && c ∉ ['.', '_', '-', '+', '=', '/']) value
  let bytes := asBytes value
  if bytes.length < 24 ∨ bytes.any (128 ≤ ·) = true then some false
  else if looksLikeJwt value = true then some true
  else if 32 ≤ bytes.length ∧ bytes.all isHexDigitByte = true ∧ 8 ≤ distinctAsciiBytes bytes then
    some true
  else if bytes.length < 32 ∨ bytes.all isOpaqueTokenByte = false then some false
  else if 4 < bytes.countP (isOneOf "_-.+=/") then some false
  else if characterClasses bytes < 2 ∨ distinctAsciiBytes bytes < 16 then some false
  else if bytes.length ≤ u32Max then some (M.atLeastFourBits bytes)
  else none

/-! ### Rewriting -/

/-- What a round of a rewriting loop finds: where to look next, or a secret to replace. -/
inductive Finding
  | skip (searchStart : Nat)
  | secret (secretStart secretEnd searchStart : Nat)

/-- The loop with `copied_until` and `search_start`.  A round ends the loop with `some none`. -/
def redactLoop (value : String) (next : Nat → Nat → Option (Option Finding)) :
    Nat → String → Nat → Nat → Option String
  | 0, _, _, _ => none
  | rounds + 1, output, copiedUntil, searchStart => do
    match ← next copiedUntil searchStart with
    | none =>
      let rest ← sliceFrom value copiedUntil
      return output ++ rest
    | some (.skip searchStart) => redactLoop value next rounds output copiedUntil searchStart
    | some (.secret secretStart secretEnd searchStart) => do
      let kept ← slice value copiedUntil secretStart
      redactLoop value next rounds (output ++ kept ++ redactionMarker) secretEnd searchStart

def rewrite (value : String) (next : Nat → Nat → Option (Option Finding)) : Option String :=
  redactLoop value next (byteLen value + 1) "" 0 0

/-- `bytes.get(index).copied().filter(..)`, a quotation mark. -/
def quoteAt (value : String) (index : Nat) : Option UInt8 :=
  (asBytes value)[index]?.filter (isOneOf "\"'")

/-- The byte before an index; there is none before the first. -/
def byteBefore (value : String) (index : Nat) : Option UInt8 :=
  if index = 0 then none else (asBytes value)[index - 1]?

def isKeyByte : Bool := isAlphanumericByte byte || isOneOf "_-" byte

/-- Where a secret in quotes ends, or one that a delimiter ends. -/
def isSecretByte (delimiters : String) (quote : Option UInt8) (byte : UInt8) : Bool :=
  match quote with
  | some quote => byte != quote
  | none => !isWhitespaceByte byte && !isOneOf delimiters byte

/-- The key before a separator, with the quotation mark behind it. -/
def structuredKey (value : String) (copiedUntil separator : Nat) :
    Option (Nat × Nat × Option UInt8) := do
  let bytes := asBytes value
  let keyEnd ← scanBack isWhitespaceByte bytes copiedUntil separator
  let closingQuote := (byteBefore value keyEnd).filter (isOneOf "\"'")
  let keyEnd := if closingQuote.isSome then keyEnd - 1 else keyEnd
  let keyStart ← scanBack isKeyByte bytes copiedUntil keyEnd
  return (keyStart, keyEnd, closingQuote)

/-- The secret behind a separator. -/
def structuredSecret (value key : String) (separator : Nat) : Finding :=
  let bytes := asBytes value
  let secretStart := scanWhile isWhitespaceByte bytes (separator + 1)
  let valueQuote := quoteAt value secretStart
  let secretStart := if valueQuote.isSome then secretStart + 1 else secretStart
  let secretEnd :=
    if valueQuote.isNone && isSensitiveHeaderName (toAsciiLowercase key) then bytes.length
    else scanWhile (isSecretByte ",;\x7d]<>" valueQuote) bytes secretStart
  .secret secretStart secretEnd (max secretEnd (separator + 1))

/-- A round of `redact_structured_sensitive_values`. -/
def nextStructured (value : String) (copiedUntil searchStart : Nat) : Option (Option Finding) := do
  match ← positionFrom (isOneOf ":=") (asBytes value) searchStart with
  | none => return none
  | some relativeSeparator =>
    let separator := searchStart + relativeSeparator
    let (keyStart, keyEnd, closingQuote) ← structuredKey value copiedUntil separator
    if keyStart = keyEnd then return some (.skip (separator + 1))
    else do
      let key ← slice value keyStart keyEnd
      if isSensitiveFieldName key = false then return some (.skip (separator + 1))
      else if closingQuote.isSome ∧ byteBefore value keyStart ≠ closingQuote then
        return some (.skip (separator + 1))
      else return some (structuredSecret value key separator)

def redactStructuredSensitiveValues (value : String) : Option String :=
  rewrite value (nextStructured value)

/-- A round of `redact_sensitive_query_values`. -/
def nextQuery (value : String) (_copiedUntil searchStart : Nat) : Option (Option Finding) := do
  let bytes := asBytes value
  match ← positionFrom (isOneOf "?&") bytes searchStart with
  | none => return none
  | some relativeStart =>
    let parameterStart := searchStart + relativeStart
    let keyStart := parameterStart + 1
    let equals := scanWhile (fun byte => !isOneOf "=&# \t\r\n\"'" byte) bytes keyStart
    if bytes[equals]? ≠ some 0x3D then return some (.skip (parameterStart + 1))
    else do
      let key ← slice value keyStart equals
      if isSensitiveQueryKey key = false then return some (.skip (equals + 1))
      else
        let valueEnd := scanWhile (fun byte => !isOneOf "&# \t\r\n\"'" byte) bytes (equals + 1)
        return some (.secret (equals + 1) valueEnd valueEnd)

def redactSensitiveQueryValues (value : String) : Option String := rewrite value (nextQuery value)

/-- A round of `redact_after_case_insensitive_marker`. -/
def nextMarker (value marker : String) (_copiedUntil cursor : Nat) : Option (Option Finding) := do
  let lower ← sliceFrom (toAsciiLowercase value) cursor
  match findStr lower marker with
  | none => return none
  | some relative =>
    let secretStart := cursor + relative + byteLen marker
    let secretEnd := scanWhile (isSecretByte "\"',;<>" none) (asBytes value) secretStart
    return some (.secret secretStart secretEnd secretEnd)

def redactAfterCaseInsensitiveMarker (value marker : String) : Option String :=
  rewrite value (nextMarker value marker)

/-- A round of `redact_inline_header_marker`. -/
def nextHeader (value marker : String) (redactRemainder : Bool) (_copiedUntil cursor : Nat) :
    Option (Option Finding) := do
  let bytes := asBytes value
  let lower ← sliceFrom (toAsciiLowercase value) cursor
  match findStr lower marker with
  | none => return none
  | some relative =>
    let markerEnd := cursor + relative + byteLen marker
    let secretStart := scanWhile isWhitespaceByte bytes markerEnd
    let quote := quoteAt value secretStart
    let secretStart := if quote.isSome then secretStart + 1 else secretStart
    let secretEnd := scanWhile
      (fun byte => (quote.isNone && redactRemainder) || isSecretByte "\"',;<>" quote byte)
      bytes secretStart
    return some (.secret secretStart secretEnd secretEnd)

def redactInlineHeaderMarker (value marker : String) (redactRemainder : Bool) : Option String :=
  rewrite value (nextHeader value marker redactRemainder)

def tokenMarkers : List String := ["x-api-key:", "api-key:", "x-goog-api-key:", "x-auth-token:"]

def remainderMarkers : List String :=
  ["authorization:", "proxy-authorization:", "cookie:", "set-cookie:"]

def redactInlineHeaderValues (value : String) : Option String := do
  let output ← tokenMarkers.foldlM
    (fun output marker => redactInlineHeaderMarker output marker false) value
  remainderMarkers.foldlM (fun output marker => redactInlineHeaderMarker output marker true) output

/-- A round of `redact_opaque_tokens`. -/
def nextOpaque (value : String) (_copiedUntil cursor : Nat) : Option (Option Finding) := do
  let bytes := asBytes value
  match bytes[cursor]? with
  | none => return none
  | some byte =>
    if isOpaqueTokenByte byte = false then return some (.skip (cursor + 1))
    else do
      let stop := scanWhile isOpaqueTokenByte bytes cursor
      let token ← slice value cursor stop
      if ← looksLikeOpaqueSecret M token then return some (.secret cursor stop stop)
      else return some (.skip stop)

def redactOpaqueTokens (value : String) : Option String := rewrite value (nextOpaque M value)

/-! ### Known prefixes -/

def knownTokenPrefixes : List String :=
  ["sk-", "sk_", "AIza", "xoxb-", "xoxp-", "ghp_", "gho_", "AKIA"]

def isKnownTokenByte : Bool := isGraphicByte byte && !isOneOf "\"',;<>)]\x7d" byte

/-- The end of a token with a known prefix at a cursor. -/
def knownTokenEnd (value rest : String) (cursor : Nat) : Option Nat :=
  (knownTokenPrefixes.find? fun known => strStartsWith rest known).bind fun known =>
    let stop := scanWhile isKnownTokenByte (asBytes value) (cursor + byteLen known)
    if byteLen known + 6 ≤ stop - cursor then some stop else none

def knownTokenLoop (value : String) : Nat → String → Nat → Option String
  | 0, _, _ => none
  | rounds + 1, output, cursor =>
    if cursor < byteLen value then do
      let rest ← sliceFrom value cursor
      match knownTokenEnd value rest cursor with
      | some stop => knownTokenLoop value rounds (output ++ redactionMarker) stop
      | none => do
        let character ← rest.toList.head?
        knownTokenLoop value rounds (output ++ String.ofList [character])
          (cursor + character.utf8Size)
    else some output

def redactKnownTokenPrefixes (value : String) : Option String :=
  knownTokenLoop value (byteLen value + 1) "" 0

/-! ### A line -/

/-- The key before a colon, without the quotation marks around it. -/
def normalizedKey (key : String) : String :=
  toAsciiLowercase (trimMatches (fun c => isAsciiWhitespace c || c ∈ ['"', '\'']) key)

variable (line : String)

/-- The passes over a line, one after the other. -/
def redactPasses : Option String := do
  let queryRedacted ← redactSensitiveQueryValues line
  let structuredRedacted ← redactStructuredSensitiveValues queryRedacted
  let headerRedacted ← redactInlineHeaderValues structuredRedacted
  let bearerRedacted ← redactAfterCaseInsensitiveMarker headerRedacted "bearer "
  let basicRedacted ← redactAfterCaseInsensitiveMarker bearerRedacted "basic "
  let knownTokenRedacted ← redactKnownTokenPrefixes basicRedacted
  redactOpaqueTokens M knownTokenRedacted

def redactLine : Option String :=
  let trimmed := trimStart line
  match splitOnce ':' trimmed with
  | some (key, _) =>
    if isSensitiveFieldName (normalizedKey key) = true then do
      let indentation ← slice line 0 (byteLen line - byteLen trimmed)
      return indentation ++ key ++ ": " ++ redactionMarker
    else redactPasses M line
  | none => redactPasses M line

/-! ### Entities -/

/-- `char::to_digit`. -/
def toDigit (radix : Nat) (c : Char) : Option Nat :=
  let digit :=
    if '0' ≤ c ∧ c ≤ '9' then c.toNat - '0'.toNat
    else if 'a' ≤ c ∧ c ≤ 'z' then c.toNat - 'a'.toNat + 10
    else if 'A' ≤ c ∧ c ≤ 'Z' then c.toNat - 'A'.toNat + 10
    else radix
  if digit < radix then some digit else none

/-- `u32::from_str_radix`. -/
def parseU32 (radix : Nat) (text : String) : Option Nat := do
  let digits := match text.toList with
    | '+' :: digits => digits
    | digits => digits
  guard (digits ≠ [])
  let number ← digits.foldlM
    (fun number c => (toDigit radix c).map fun digit => number * radix + digit) 0
  guard (number ≤ u32Max)
  return number

/-- `char::from_u32`. -/
def charFromU32 (number : Nat) : Option Char :=
  if number < 0xD800 ∨ 0xDFFF < number ∧ number < 0x110000 then some (Char.ofNat number) else none

def decodeEntity (entity : String) : Option Char :=
  if entity = "amp" then some '&'
  else if entity = "lt" then some '<'
  else if entity = "gt" then some '>'
  else if entity = "quot" then some '"'
  else if entity = "apos" ∨ entity = "#39" then some '\''
  else
    let hex := ((stripPrefix? entity "#x").or (stripPrefix? entity "#X")).bind (parseU32 16)
    (hex.or ((stripPrefix? entity "#").bind (parseU32 10))).bind charFromU32

/-- `&bytes[start..stop]`. -/
def subBytes (start stop : Nat) : Option Bytes :=
  if start ≤ stop ∧ stop ≤ bytes.length then some ((bytes.drop start).take (stop - start)) else none

/-- The entity that a `&` begins, with the index behind it. -/
def entityAt (value : String) (index : Nat) : Option (Option (Char × Nat)) := do
  let bytes := asBytes value
  let window ← subBytes bytes (index + 1) (min (index + 13) bytes.length)
  match window.findIdx? (· == 0x3B) with
  | none => return none
  | some relativeEnd => do
    let stop := index + 1 + relativeEnd
    let entity ← slice value (index + 1) stop
    return (decodeEntity entity).map fun character => (character, stop + 1)

def entityLoop (value : String) : Nat → String → Nat → Option String
  | 0, _, _ => none
  | rounds + 1, output, index =>
    match (asBytes value)[index]? with
    | none => some output
    | some byte =>
      if byte ≠ 0x26 then do
        let rest ← sliceFrom value index
        let character ← rest.toList.head?
        entityLoop value rounds (output ++ String.ofList [character]) (index + character.utf8Size)
      else do
        match ← entityAt value index with
        | some (character, next) =>
          entityLoop value rounds (output ++ String.ofList [character]) next
        | none => entityLoop value rounds (output ++ "&") (index + 1)

def decodeBasicHtmlEntities (value : String) : Option String :=
  entityLoop value (byteLen value + 1) "" 0

/-! ### The text that is kept -/

/-- `str::lines`: a line feed ends a line, and so does a carriage return before it. -/
def textLines (value : String) : List String :=
  let pieces := value.toList.splitOnP (· == '\n')
  let ended := pieces.dropLast.map fun piece =>
    String.ofList (if piece.getLast? = some '\r' then piece.dropLast else piece)
  let last := pieces.getLast?.getD []
  if last = [] then ended else ended ++ [String.ofList last]

/-- Control characters but tabs become spaces. -/
def maskControls : String :=
  String.ofList (line.toList.map fun c => if isControl c && c != '\t' then ' ' else c)

/-- `str::to_ascii_uppercase`. -/
def toAsciiUppercase (value : String) : String := String.ofList (value.toList.map Char.toUpper)

/-- `push_line_bounded`, and whether the whole line fits. -/
def pushLineBounded (output line : String) (maxBytes : Nat) : Option (String × Bool) :=
  if output ≠ "" ∧ byteLen output = maxBytes then some (output, false)
  else
    let output := if output = "" then output else output ++ "\n"
    let remaining := maxBytes - byteLen output
    if byteLen line ≤ remaining then some (output ++ line, true)
    else do
      let kept ← slice line 0 (floorCharBoundary line remaining)
      return (output ++ kept, false)

/-- `truncate_to_boundary`. -/
def truncateToBoundary (value : String) (maxBytes : Nat) : Option String :=
  if byteLen value ≤ maxBytes then some value
  else slice value 0 (floorCharBoundary value maxBytes)

/-- The loop over the lines; the result says whether a line did not fit. -/
def redactLines (maxBytes : Nat) : List String → String → Bool → Option (String × Bool)
  | [], output, _ => some (output, false)
  | rawLine :: lines, output, inPrivateKey =>
    let line := maskControls rawLine
    let upper := toAsciiUppercase line
    if strContains upper "-----BEGIN " && strContains upper "PRIVATE KEY-----" then do
      let (output, _) ← pushLineBounded output redactionMarker maxBytes
      redactLines maxBytes lines output true
    else if inPrivateKey then
      redactLines maxBytes lines output
        (!(strContains upper "-----END " && strContains upper "PRIVATE KEY-----"))
    else do
      let redacted ← redactLine M line
      let (output, fits) ← pushLineBounded output redacted maxBytes
      if fits then redactLines maxBytes lines output false else return (output, true)

/-- What follows the loop over the lines. -/
def finishBounded (output : String) (maxBytes : Nat) (wasTruncated : Bool) : Option String :=
  if maxBytes ≤ byteLen output ∨ wasTruncated = true then do
    let output ← truncateToBoundary output (maxBytes - byteLen truncationMarker)
    return if byteLen truncationMarker ≤ maxBytes then output ++ truncationMarker else output
  else if strEndsWith output "\n" then some (String.ofList output.toList.dropLast)
  else some output

def redactAndBound (value : String) (maxBytes : Nat) : Option String :=
  if maxBytes = 0 then some ""
  else do
    let scanLimit := min (min (maxBytes * 8) u64Max) maxRedactionScanBytes
    let inputEnd := floorCharBoundary value scanLimit
    let input ← slice value 0 inputEnd
    let decoded ← decodeBasicHtmlEntities input
    let (output, broke) ← redactLines M maxBytes (textLines decoded) "" false
    finishBounded output maxBytes (inputEnd < byteLen value || broke)

end LorePia.Evidence
