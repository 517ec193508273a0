import TacoRank.Lib.Json
import TacoRank.Lib.Regex
import TacoRank.Lib.Utf8
import TacoRank.Text
import Mathlib.Data.List.Dedup
import Mathlib.Data.List.Sort

/-!
# Credential-aware redaction

`SecretRedactor` of `coding/redaction.py`: what it replaces in a text, the document that `redact_object` makes of
another one, and the bytes that `redact_json_bytes` returns.
-/

namespace TacoRank.Coding
open Lib Lib.Rewriting

/-- `REDACTED`. -/
def redacted : List Char := "[REDACTED]".toList

/-! ### Patterns -/

section Patterns
variable (unicode : Char → Bool)

/-- `str.isalnum` of one character; `unicode` is the table of the letters and digits outside ASCII. -/
def isalnum (c : Char) : Bool := if c.toNat < 128 then c.isAlphanum else unicode c

/-- The characters of a word, between which `\b` does not match. -/
def isWord (c : Char) : Bool := isalnum unicode c || c == '_'

/-- The letter that `IGNORECASE` compares: three ASCII letters have a partner outside of it. -/
def foldCase (c : Char) : Char :=
  if c = '\u017f' then 's'
  else if c = '\u0131' ∨ c = '\u0130' then 'i'
  else if c = '\u212a' then 'k'
  else c.toLower

/-- A text as a pattern. -/
def exactly (text : String) : Regex := .text (fun p c => p == c) text.toList

/-- A text in small letters as a pattern that ignores case. -/
def caseless (text : String) : Regex := .text (fun p c => p == foldCase c) text.toList

/-- Two words that `[_-]?` connects. -/
def compound (first second : String) : Regex :=
  .all [caseless first, .optional (.one fun c => c == '_' || c == '-'), caseless second]

/-- `_SENSITIVE_KEY_RE`. -/
def sensitiveKeyRe : Regex :=
  .any [compound "api" "key", compound "access" "token",
    .seq (caseless "auth") (.optional (caseless "orization")), caseless "bearer", compound "client" "secret",
    caseless "credential", caseless "passwd", caseless "password", compound "private" "key", caseless "secret",
    compound "session" "token"]

/-- `[A-Z0-9 ]`. -/
def pemLabel (c : Char) : Bool := c.isUpper || c.isDigit || c == ' '

/-- `_PEM_RE`. -/
def pemRe : Regex :=
  .all [exactly "-----BEGIN ", .many true pemLabel, exactly "PRIVATE KEY-----", .many false fun _ => true,
    exactly "-----END ", .many true pemLabel, exactly "PRIVATE KEY-----"]

/-- `[A-Za-z0-9._~+/=-]`, ignoring case. -/
def bearerChar (c : Char) : Bool := (foldCase c).isAlphanum || "._~+/=-".toList.contains c

/-- The words before the sign of `_ASSIGNMENT_RE`. -/
def assignmentName : Regex :=
  .any [compound "api" "key", compound "access" "token", caseless "authorization", compound "client" "secret",
    caseless "password", compound "private" "key", caseless "secret", compound "session" "token"]

/-- The value behind the sign of `_ASSIGNMENT_RE`. -/
def assignmentValue : Regex :=
  .any [.all [.one (· == '$'), .one (· == '{'), .atLeast 1 fun c => !(c == '}' || c == '\r' || c == '\n'),
      .one (· == '}')],
    .all [.one (· == '"'), .many true fun c => !(c == '"' || c == '\r' || c == '\n'), .one (· == '"')],
    .all [.one (· == '\''), .many true fun c => !(c == '\'' || c == '\r' || c == '\n'), .one (· == '\'')],
    .atLeast 1 fun c => !(isPythonSpace c || c == ',' || c == ';' || c == '}')]

/-- `[A-Za-z0-9_-]`. -/
def tokenChar (c : Char) : Bool := c.isAlphanum || c == '_' || c == '-'

/-- `_WELL_KNOWN_TOKEN_RE`. -/
def wellKnownTokenRe : Regex :=
  .all [.boundary, .any [
      .seq (exactly "sk-") (.atLeast 16 tokenChar),
      .all [exactly "gh", .one fun c => "pousr".toList.contains c, exactly "_",
        .atLeast 20 fun c => c.isAlphanum || c == '_'],
      .seq (exactly "AKIA") (.times 16 fun c => c.isDigit || c.isUpper),
      .all [exactly "eyJ", .atLeast 10 tokenChar, exactly ".", .atLeast 10 tokenChar, exactly ".",
        .atLeast 10 tokenChar]],
    .boundary]

/-- `_PEM_RE.sub`. -/
def pemSub : Substitution := Regex.sub (isWord unicode) [.put pemRe (redacted ++ ":private-key".toList) (by decide)]

/-- `_BEARER_RE.sub`. -/
def bearerSub : Substitution :=
  Regex.sub (isWord unicode) [.keep (.seq .boundary (.alt (caseless "bearer") (caseless "basic"))),
    .put (.seq (.atLeast 1 isPythonSpace) (.atLeast 8 bearerChar)) (' ' :: redacted) (by decide)]

/-- `_ASSIGNMENT_RE.sub`. -/
def assignmentSub : Substitution :=
  Regex.sub (isWord unicode) [
    .keep (.all [.boundary, assignmentName, .boundary, .many true isPythonSpace, .one fun c => c == ':' || c == '=',
      .many true isPythonSpace]),
    .put assignmentValue redacted (by decide)]

/-- `_WELL_KNOWN_TOKEN_RE.sub`. -/
def wellKnownTokenSub : Substitution :=
  Regex.sub (isWord unicode) [.put wellKnownTokenRe (redacted ++ ":token".toList) (by decide)]

/-- `_URL_CREDENTIAL_RE.sub`. -/
def urlCredentialSub : Substitution :=
  Regex.sub (isWord unicode) [
    .keep (.all [.one Char.isAlpha, .many true fun c => c.isAlphanum || c == '+' || c == '.' || c == '-',
      exactly "://", .atLeast 1 fun c => !(isPythonSpace c || c == '/' || c == ':' || c == '@'), exactly ":"]),
    .put (.atLeast 1 fun c => !(isPythonSpace c || c == '/' || c == '@')) redacted (by decide),
    .keep (exactly "@")]

end Patterns
/-! ### The redactor -/

/-- The order of the secrets: `(-len(item), item)`. -/
def longestFirst (a b : String) : Prop := b.length < a.length ∨ (a.length = b.length ∧ a.toList < b.toList)

instance (a b : String) : Decidable (longestFirst a b) := inferInstanceAs (Decidable (_ ∨ _))

/-- `SecretRedactor`: the secrets, none of them empty. -/
structure SecretRedactor where
  secrets : List String
  nonempty : ∀ secret ∈ secrets, secret.toList ≠ []

/-- `SecretRedactor.__init__`. -/
def SecretRedactor.ofValues (secretValues : List String) : SecretRedactor where
  secrets := (secretValues.filter fun value => value.toList ≠ []).dedup.insertionSort longestFirst
  nonempty secret mem := by
    rw [List.mem_insertionSort, List.mem_dedup, List.mem_filter] at mem
    exact of_decide_eq_true mem.2

lemma redacted_ne_nil : redacted ≠ [] := by decide

section Redactor
variable (unicode : Char → Bool) (r : SecretRedactor)

/-- The replacements of `redact`, in their order. -/
def SecretRedactor.passes : List Substitution :=
  r.secrets.attach.map (fun secret => .word secret.1.toList redacted (r.nonempty _ secret.2) redacted_ne_nil) ++
    [pemSub unicode, bearerSub unicode, assignmentSub unicode, wellKnownTokenSub unicode, urlCredentialSub unicode]

/-- `redact`. -/
def SecretRedactor.redact (text : String) : String :=
  String.ofList (Substitution.applyAll (r.passes unicode) text.toList)

/-- `_SENSITIVE_KEY_RE.search`. -/
def isSensitiveKey (key : String) : Bool := Regex.search (isWord unicode) sensitiveKeyRe none key.toList

mutual

/-- `redact_object`. -/
def SecretRedactor.redactObject {F : Type} : Json F → Json F
  | .obj members => .obj (redactMembers members)
  | .arr items => .arr (redactItems items)
  | .str text => .str (r.redact unicode text)
  | .null => .null
  | .bool b => .bool b
  | .int n => .int n
  | .float x => .float x

/-- The items of a list. -/
def SecretRedactor.redactItems {F : Type} : List (Json F) → List (Json F)
  | [] => []
  | item :: items => SecretRedactor.redactObject item :: redactItems items

/-- The entries of a dictionary. -/
def SecretRedactor.redactMembers {F : Type} : List (String × Json F) → List (String × Json F)
  | [] => []
  | (key, item) :: members =>
    (key, if isSensitiveKey unicode key then .str (String.ofList redacted) else SecretRedactor.redactObject item) ::
      redactMembers members

end

end Redactor

/-! ### Rendering -/

section Rendering
variable {F : Type} [Floats F]

/-- A line break and the blanks of a level. -/
def newline (level : Nat) : List Char := '\n' :: List.replicate (2 * level) ' '

mutual

/-- `json.dumps` with `ensure_ascii=False`, `indent=2` and `separators=(",", ": ")`. -/
def pretty (level : Nat) : Json F → List Char
  | .arr [] => ['[', ']']
  | .arr (item :: items) => '[' :: prettyItems (level + 1) (item :: items) ++ newline level ++ [']']
  | .obj [] => ['{', '}']
  | .obj (member :: members) => '{' :: prettyMembers (level + 1) (member :: members) ++ newline level ++ ['}']
  | .str text => Json.quoted text
  | .null => ['n', 'u', 'l', 'l']
  | .bool true => ['t', 'r', 'u', 'e']
  | .bool false => ['f', 'a', 'l', 's', 'e']
  | .int n => Json.decimal n
  | .float x => Floats.repr x

/-- The items of a list, each on a line of its own. -/
def prettyItems (level : Nat) : List (Json F) → List Char
  | [] => []
  | [item] => newline level ++ pretty level item
  | item :: items => newline level ++ pretty level item ++ ',' :: prettyItems level items

/-- The entries of a dictionary, each on a line of its own. -/
def prettyMembers (level : Nat) : List (String × Json F) → List Char
  | [] => []
  | [(key, item)] => newline level ++ Json.quoted key ++ [':', ' '] ++ pretty level item
  | (key, item) :: members =>
    newline level ++ Json.quoted key ++ [':', ' '] ++ pretty level item ++ ',' :: prettyMembers level members

end

/-- `RedactionError`. -/
structure RedactionError where
  message : String
deriving DecidableEq

/-- `redact_json_bytes`. The reader of the documents, `json.loads`, is a parameter. -/
def SecretRedactor.redactJsonBytes (unicode : Char → Bool) (loads : String → Option (Json F)) (r : SecretRedactor)
    (value : ByteArray) (maxBytes : Nat := 50 * 1024 * 1024) : Except RedactionError ByteArray :=
  if maxBytes < value.size then .error ⟨"JSON document exceeds the redaction size limit"⟩
  else
    match String.fromUTF8? value with
    | none => .error ⟨"JSON document is not UTF-8"⟩
    | some decoded =>
      match loads decoded with
      | none => .error ⟨"malformed JSON document"⟩
      | some parsed => .ok (String.ofList (pretty 0 (r.redactObject unicode parsed) ++ ['\n'])).toUTF8

end Rendering
end TacoRank.Coding
