import TacoRank.Coding.Redaction

/-!
# Where redacted bytes come from

The text of `redact_json_bytes` with the origin of each character. A known secret that occurs in it overlaps what the
redactor inserted, or stands in a key or a number, which `redact_object` copies, or touches an escape of the rendering
(`known_secrets_covered`).
-/

namespace TacoRank.Coding
open Lib Lib.Rewriting

/-- The origin of a character: the layout, `null`, `true` and `false`, a number, a key, a character of a string that is
written as it stands, an escape, or a replacement of the redactor. -/
inductive Origin where
  | punctuation | constant | number | key | text | escape | inserted
deriving DecidableEq

/-- A text with the origin of each character. -/
abbrev Traced := List (Char × Origin)

/-- A text of one origin. -/
def tagged (origin : Origin) (text : List Char) : Traced := text.map (·, origin)

/-- A character of a string. -/
def written (p : Char × Bool) : Traced :=
  if p.2 then tagged .inserted (Json.escape p.1)
  else if Json.escape p.1 = [p.1] then tagged .text [p.1]
  else tagged .escape (Json.escape p.1)

/-- A string in quotes. -/
def tracedString (m : Marked) : Traced := ('"', .punctuation) :: (m.flatMap written ++ [('"', .punctuation)])

/-- A key in quotes. -/
def tracedKey (key : String) : Traced :=
  ('"', .punctuation) :: (tagged .key (key.toList.flatMap Json.escape) ++ [('"', .punctuation)])

section Traces
variable {F : Type} [Floats F] (unicode : Char → Bool) (r : SecretRedactor)

mutual

/-- The text of the redacted document. -/
def traced (level : Nat) : Json F → Traced
  | .arr [] => tagged .punctuation ['[', ']']
  | .arr (item :: items) =>
    ('[', .punctuation) :: tracedItems (level + 1) (item :: items) ++ tagged .punctuation (newline level ++ [']'])
  | .obj [] => tagged .punctuation ['{', '}']
  | .obj (member :: members) =>
    ('{', .punctuation) :: tracedMembers (level + 1) (member :: members) ++ tagged .punctuation (newline level ++ ['}'])
  | .str text => tracedString (Substitution.applyAllMarked (r.passes unicode) (mark false text.toList))
  | .null => tagged .constant ['n', 'u', 'l', 'l']
  | .bool true => tagged .constant ['t', 'r', 'u', 'e']
  | .bool false => tagged .constant ['f', 'a', 'l', 's', 'e']
  | .int n => tagged .number (Json.decimal n)
  | .float x => tagged .number (Floats.repr x)

/-- The items of a list. -/
def tracedItems (level : Nat) : List (Json F) → Traced
  | [] => []
  | [item] => tagged .punctuation (newline level) ++ traced level item
  | item :: items =>
    tagged .punctuation (newline level) ++ (traced level item ++ (',', .punctuation) :: tracedItems level items)

/-- The entries of a dictionary. -/
def tracedMembers (level : Nat) : List (String × Json F) → Traced
  | [] => []
  | [(key, item)] => tagged .punctuation (newline level) ++ (tracedKey key ++ (':', .punctuation) ::
      (' ', .punctuation) ::
      if isSensitiveKey unicode key then tracedString (mark true redacted) else traced level item)
  | (key, item) :: members => tagged .punctuation (newline level) ++ (tracedKey key ++ (':', .punctuation) ::
      (' ', .punctuation) ::
      ((if isSensitiveKey unicode key then tracedString (mark true redacted) else traced level item) ++
        (',', .punctuation) :: tracedMembers level members))

end

/-- The text that `redact_json_bytes` returns for a document. -/
def tracedDocument (doc : Json F) : Traced := traced unicode r 0 doc ++ [('\n', .punctuation)]

end Traces

/-! ### The traces are the text -/

section Text
variable {F : Type} [Floats F] {unicode : Char → Bool} {r : SecretRedactor}

@[simp] lemma map_tagged (origin : Origin) (text : List Char) : (tagged origin text).map Prod.fst = text := by
  rw [tagged, List.map_map]
  exact List.map_id text

lemma map_written (p : Char × Bool) : (written p).map Prod.fst = Json.escape p.1 := by
  unfold written
  split
  · exact map_tagged _ _
  · split
    · rename_i same
      rw [map_tagged, same]
    · exact map_tagged _ _

lemma map_tracedString (m : Marked) : (tracedString m).map Prod.fst = Json.quoted (String.ofList (plain m)) := by
  have body : (m.flatMap written).map Prod.fst = (plain m).flatMap Json.escape := by
    rw [List.map_flatMap, plain, List.flatMap_map]
    exact congrArg (m.flatMap ·) (funext map_written)
  rw [tracedString, Json.quoted, List.map_cons, List.map_append, body, String.toList_ofList]
  rfl

lemma map_tracedKey (key : String) : (tracedKey key).map Prod.fst = Json.quoted key := by
  rw [tracedKey, Json.quoted, List.map_cons, List.map_append, map_tagged]
  rfl

lemma map_value (unicode : Char → Bool) {level : Nat} (key : String) {trace : Traced} {item : Json F}
    (same : trace.map Prod.fst = pretty level item) :
    (if isSensitiveKey unicode key then tracedString (mark true redacted) else trace).map Prod.fst =
      pretty level (if isSensitiveKey unicode key then .str (String.ofList redacted) else item) := by
  split
  · rw [map_tracedString, plain_mark]
    rfl
  · exact same

mutual

lemma map_traced (level : Nat) (doc : Json F) :
    (traced unicode r level doc).map Prod.fst = pretty level (r.redactObject unicode doc) := by
  cases doc with
  | arr items =>
    cases items with
    | nil => rfl
    | cons item items =>
      have inner := map_tracedItems (level + 1) (item :: items)
      simp only [traced, List.map_append, List.map_cons, map_tagged, inner, SecretRedactor.redactObject,
        SecretRedactor.redactItems, pretty, List.append_assoc, List.cons_append]
  | obj members =>
    cases members with
    | nil => rfl
    | cons member members =>
      obtain ⟨key, item⟩ := member
      have inner := map_tracedMembers (level + 1) ((key, item) :: members)
      simp only [traced, List.map_append, List.map_cons, map_tagged, inner, SecretRedactor.redactObject,
        SecretRedactor.redactMembers, pretty, List.append_assoc, List.cons_append]
  | str text =>
    rw [traced, map_tracedString, Substitution.plain_applyAllMarked, plain_mark]
    rfl
  | null => rfl
  | bool b => cases b <;> rfl
  | int n => exact map_tagged _ _
  | float x => exact map_tagged _ _

lemma map_tracedItems (level : Nat) (items : List (Json F)) :
    (tracedItems unicode r level items).map Prod.fst = prettyItems level (r.redactItems unicode items) := by
  match items with
  | [] => rfl
  | [item] => simp [tracedItems, map_traced level item, SecretRedactor.redactItems, prettyItems]
  | item :: other :: items =>
    have inner := map_tracedItems level (other :: items)
    simp [tracedItems, map_traced level item, inner, SecretRedactor.redactItems, prettyItems]

lemma map_tracedMembers (level : Nat) (members : List (String × Json F)) :
    (tracedMembers unicode r level members).map Prod.fst = prettyMembers level (r.redactMembers unicode members) := by
  match members with
  | [] => rfl
  | [(key, item)] =>
    have value := map_value unicode key (map_traced level item)
    simp [tracedMembers, map_tracedKey, value, SecretRedactor.redactMembers, prettyMembers]
  | (key, item) :: (other, item') :: members =>
    have value := map_value unicode key (map_traced level item)
    have inner := map_tracedMembers level ((other, item') :: members)
    rw [SecretRedactor.redactMembers] at inner
    simp [tracedMembers, map_tracedKey, value, inner, SecretRedactor.redactMembers, prettyMembers]

end
end Text

/-! ### Occurrences -/

section Occurrences
variable {α : Type}

/-- An occurrence that overlaps what the redactor inserted, stands in a key or in a number, or touches an escape. -/
def Covered (l : List (α × Origin)) : Prop :=
  (∃ p ∈ l, p.2 = .inserted) ∨ (∀ p ∈ l, p.2 = .key) ∨ (∀ p ∈ l, p.2 = .number) ∨ ∃ p ∈ l, p.2 = .escape

/-- The bytes of a covered text. -/
lemma Covered.bytes {l : Traced} (covered : Covered l) : Covered (Utf8.bytes l) := by
  have some' (origin : Origin) (found : ∃ p ∈ l, p.2 = origin) : ∃ p ∈ Utf8.bytes l, p.2 = origin := by
    obtain ⟨⟨c, _⟩, mem, rfl⟩ := found
    obtain ⟨byte, member⟩ := Utf8.bytes_of_mem mem
    exact ⟨_, member, rfl⟩
  have every (origin : Origin) (all : ∀ p ∈ l, p.2 = origin) : ∀ p ∈ Utf8.bytes l, p.2 = origin := by
    intro p mem
    obtain ⟨c, member⟩ := Utf8.mem_bytes mem
    exact all _ member
  rcases covered with inserted | key | number | escape
  · exact .inl (some' _ inserted)
  · exact .inr (.inl (every _ key))
  · exact .inr (.inr (.inl (every _ number)))
  · exact .inr (.inr (.inr (some' _ escape)))

/-- `_secrets` holds texts of at least eight letters and digits: what the caller passes. -/
structure Word (unicode : Char → Bool) (secret : List Char) : Prop where
  letters : ∀ c ∈ secret, isalnum unicode c = true
  long : 8 ≤ secret.length

variable {unicode : Char → Bool} {secret : List Char} {a b : Traced} {p : Char × Origin}

/-- Every occurrence of a word in a text is covered. -/
def Shielded (secret : List Char) (t : Traced) : Prop := ∀ l, l <:+: t → l.map Prod.fst = secret → Covered l

lemma Word.mem {l : Traced} (word : Word unicode secret) (same : l.map Prod.fst = secret) (mem : p ∈ l) :
    isalnum unicode p.1 = true := word.letters _ (same ▸ List.mem_map_of_mem mem)

/-- A word does not cross what is neither a letter nor a digit. -/
lemma Shielded.cross (word : Word unicode secret) (left : Shielded secret a) (right : Shielded secret b)
    (border : isalnum unicode p.1 = false) : Shielded secret (a ++ p :: b) := by
  intro l inside same
  have absent : p ∉ l := by
    intro mem
    rw [word.mem same mem] at border
    cases border
  rcases infix_append_cases inside with inside | inside | ⟨x, y, rfl, suffix', front⟩
  · exact left l inside same
  · rcases List.infix_cons_iff.mp inside with front | inside
    · cases l with
      | nil => exact left [] List.nil_infix same
      | cons q l =>
        rw [(List.cons_prefix_cons.mp front).1] at absent
        exact absurd List.mem_cons_self absent
    · exact right l inside same
  · cases y with
    | nil =>
      rw [List.append_nil] at same ⊢
      exact left x suffix'.isInfix same
    | cons q y =>
      rw [(List.cons_prefix_cons.mp front).1] at absent
      exact absurd (List.mem_append_right _ List.mem_cons_self) absent

/-- A text with fewer characters than the word. -/
lemma Shielded.short (word : Word unicode secret) (origin : Origin) (text : List Char) (short : text.length < 8) :
    Shielded secret (tagged origin text) := by
  intro l inside same
  have size := inside.length_le
  have long := word.long
  rw [← same, List.length_map] at long
  rw [tagged, List.length_map] at size
  omega

lemma Shielded.nil (word : Word unicode secret) : Shielded secret [] := .short word .text [] (Nat.succ_pos _)

/-- What separates words stands in front. -/
lemma Shielded.front (word : Word unicode secret) {text : List Char} (right : Shielded secret b)
    (separates : ∀ c ∈ text, isalnum unicode c = false) : Shielded secret (tagged .punctuation text ++ b) := by
  induction text with
  | nil => exact right
  | cons c text ih =>
    have rest := ih fun d mem => separates d (List.mem_cons_of_mem c mem)
    exact .cross word (.nil word) rest (p := (c, .punctuation)) (separates c List.mem_cons_self)

/-- What separates words stands behind. -/
lemma Shielded.back (word : Word unicode secret) (text : List Char) (left : Shielded secret a)
    (separates : ∀ c ∈ text, isalnum unicode c = false) : Shielded secret (a ++ tagged .punctuation text) := by
  cases text with
  | nil => rwa [show a ++ tagged .punctuation [] = a from List.append_nil a]
  | cons c text =>
    have rest := Shielded.front word (.nil word) fun d mem => separates d (List.mem_cons_of_mem c mem)
    rw [List.append_nil] at rest
    exact .cross word left rest (p := (c, .punctuation)) (separates c List.mem_cons_self)

/-- The layout is neither letters nor digits. -/
lemma isalnum_layout {c : Char} (layout : c ∈ ['"', '\n', ' ', ',', ':', '[', ']', '{', '}']) :
    isalnum unicode c = false := by
  have all : (['"', '\n', ' ', ',', ':', '[', ']', '{', '}'].all fun c => !isalnum unicode c) = true := rfl
  exact Bool.not_eq_true' _ |>.mp (List.all_eq_true.mp all c layout)

lemma isalnum_newline {level : Nat} {c : Char} (mem : c ∈ newline level) : isalnum unicode c = false := by
  rcases List.mem_cons.mp mem with rfl | mem
  · exact isalnum_layout (by decide)
  · rw [List.eq_of_mem_replicate mem]
    exact isalnum_layout (by decide)

end Occurrences

/-! ### Strings -/

section Strings
variable {unicode : Char → Bool} {r : SecretRedactor} {secret : List Char} {l : Traced} {m : Marked}

/-- The rendering of a string as a pass: an escape replaces its character. -/
def escapes (text : List Char) : List Piece :=
  text.map fun c => if Json.escape c = [c] then .kept [c] else .replaced [c] (Json.escape c)

/-- A character that was not in the string as it stands is inserted. -/
def origins (t : Traced) : Marked := t.map fun p => (p.1, decide (p.2 ≠ .text))

lemma escapes_proper (text : List Char) : Proper (escapes text) := by
  intro old new mem
  obtain ⟨c, _, same⟩ := List.mem_map.mp mem
  split at same
  · cases same
  · cases same
    unfold Json.escape
    repeat' split
    all_goals exact List.cons_ne_nil _ _

lemma origins_tagged (origin : Origin) (text : List Char) :
    origins (tagged origin text) = mark (decide (origin ≠ .text)) text := by
  rw [origins, tagged, List.map_map]
  rfl

lemma origins_written (m : Marked) : origins (m.flatMap written) = rewrite (escapes (plain m)) m := by
  induction m with
  | nil => rfl
  | cons p m ih =>
    rw [List.flatMap_cons, show origins (written p ++ m.flatMap written) =
      origins (written p) ++ origins (m.flatMap written) from List.map_append, ih]
    obtain ⟨c, inserted⟩ := p
    have pieces : escapes (plain ((c, inserted) :: m)) =
        (if Json.escape c = [c] then .kept [c] else .replaced [c] (Json.escape c)) :: escapes (plain m) := rfl
    rw [pieces]
    unfold written
    by_cases plain' : Json.escape c = [c]
    · cases inserted <;> simp [plain', rewrite, origins_tagged, mark]
    · cases inserted <;> simp [plain', rewrite, origins_tagged]

/-- What is written as it stands in a string stood unmarked before. -/
lemma unmarked_of_written (inside : l <:+: m.flatMap written) (asItStands : ∀ p ∈ l, p.2 = .text) :
    mark false (l.map Prod.fst) <:+: m := by
  have same : origins l = mark false (l.map Prod.fst) := by
    rw [origins, mark, List.map_map]
    apply List.map_congr_left
    intro p mem
    rw [asItStands p mem]
    rfl
  have mapped : origins l <:+: rewrite (escapes (plain m)) m := origins_written m ▸ inside.map _
  rw [same] at mapped
  exact rewrite_inside (escapes_proper _) (fun p mem => (mem_mark mem).2) mapped

lemma origin_written {p : Char × Bool} {q : Char × Origin} (mem : q ∈ written p) :
    q.2 = .inserted ∨ q.2 = .text ∨ q.2 = .escape := by
  unfold written at mem
  split at mem
  · exact .inl (by obtain ⟨_, _, rfl⟩ := List.mem_map.mp mem; rfl)
  · split at mem
    · exact .inr (.inl (by obtain ⟨_, _, rfl⟩ := List.mem_map.mp mem; rfl))
    · exact .inr (.inr (by obtain ⟨_, _, rfl⟩ := List.mem_map.mp mem; rfl))

/-- A string in quotes shields a word that does not survive in it. -/
lemma shielded_string (word : Word unicode secret) (cleared : ¬ mark false secret <:+: m) :
    Shielded secret (tracedString m) := by
  have body : Shielded secret (m.flatMap written) := by
    intro l inside same
    by_cases inserted : ∃ p ∈ l, p.2 = .inserted
    · exact .inl inserted
    by_cases escape : ∃ p ∈ l, p.2 = .escape
    · exact .inr (.inr (.inr escape))
    refine absurd ?_ cleared
    rw [← same]
    apply unmarked_of_written inside
    intro q mem
    obtain ⟨p, _, member⟩ := List.mem_flatMap.mp (inside.subset mem)
    rcases origin_written member with is | is | is
    · exact absurd ⟨q, mem, is⟩ inserted
    · exact is
    · exact absurd ⟨q, mem, is⟩ escape
  have closed := Shielded.back word ['"'] body fun c mem => by
    rw [List.mem_singleton.mp mem]
    exact isalnum_layout (by decide)
  exact .cross word (.nil word) closed (isalnum_layout (by decide))

/-- No known secret survives the replacements. -/
lemma redact_clears {known : String} (mem : known ∈ r.secrets) (text : List Char) :
    ¬ mark false known.toList <:+: Substitution.applyAllMarked (r.passes unicode) (mark false text) := by
  have one : Substitution.word known.toList redacted (r.nonempty _ mem) redacted_ne_nil ∈ r.passes unicode :=
    List.mem_append_left _ (List.mem_map.mpr ⟨⟨known, mem⟩, List.mem_attach _ _, rfl⟩)
  exact Substitution.applyAll_clears one (fun p mem => (mem_mark mem).2) (plain_mark _ _)

lemma shielded_inserted (word : Word unicode secret) (text : List Char) :
    Shielded secret (tracedString (mark true text)) := by
  apply shielded_string word
  intro inside
  have nothing := unmarked_nil (fun p mem => (mem_mark mem).2) fun p mem => inside.subset mem
  have long := word.long
  rw [← plain_mark false secret, nothing] at long
  exact absurd long (by decide)

lemma shielded_key (word : Word unicode secret) (key : String) : Shielded secret (tracedKey key) := by
  have body : Shielded secret (tagged .key (key.toList.flatMap Json.escape)) := by
    intro l inside _
    refine .inr (.inl fun p mem => ?_)
    obtain ⟨_, _, rfl⟩ := List.mem_map.mp (inside.subset mem)
    rfl
  have closed := Shielded.back word ['"'] body fun c mem => by
    rw [List.mem_singleton.mp mem]
    exact isalnum_layout (by decide)
  exact .cross word (.nil word) closed (isalnum_layout (by decide))

lemma shielded_number (secret text : List Char) : Shielded secret (tagged .number text) := by
  intro l inside _
  refine .inr (.inr (.inl fun p mem => ?_))
  obtain ⟨_, _, rfl⟩ := List.mem_map.mp (inside.subset mem)
  rfl

end Strings

/-! ### Documents -/

section Documents
variable {F : Type} [Floats F] {unicode : Char → Bool} {r : SecretRedactor} {secret : String}

mutual

/-- Every occurrence of a known secret in a redacted value is covered. -/
lemma shielded_traced (word : Word unicode secret.toList) (known : secret ∈ r.secrets) (level : Nat) (doc : Json F) :
    Shielded secret.toList (traced unicode r level doc) := by
  have close (c : Char) (layout : isalnum unicode c = false) :
      ∀ d ∈ newline level ++ [c], isalnum unicode d = false := by
    intro d mem
    rcases List.mem_append.mp mem with mem | mem
    · exact isalnum_newline mem
    · rw [List.mem_singleton.mp mem]
      exact layout
  cases doc with
  | arr items =>
    cases items with
    | nil => exact .short word .punctuation ['[', ']'] (by decide)
    | cons item items =>
      have inner := shielded_items word known (level + 1) (item :: items)
      have first := Shielded.cross word (.nil word) inner (p := ('[', .punctuation)) (isalnum_layout (by decide))
      exact .back word _ first (close ']' (isalnum_layout (by decide)))
  | obj members =>
    cases members with
    | nil => exact .short word .punctuation ['{', '}'] (by decide)
    | cons member members =>
      have inner := shielded_members word known (level + 1) (member :: members)
      have first := Shielded.cross word (.nil word) inner (p := ('{', .punctuation)) (isalnum_layout (by decide))
      exact .back word _ first (close '}' (isalnum_layout (by decide)))
  | str text => exact shielded_string word (redact_clears known text.toList)
  | null => exact .short word .constant ['n', 'u', 'l', 'l'] (by decide)
  | bool b =>
    cases b with
    | true => exact .short word .constant ['t', 'r', 'u', 'e'] (by decide)
    | false => exact .short word .constant ['f', 'a', 'l', 's', 'e'] (by decide)
  | int n => exact shielded_number _ _
  | float x => exact shielded_number _ _

lemma shielded_items (word : Word unicode secret.toList) (known : secret ∈ r.secrets) (level : Nat)
    (items : List (Json F)) : Shielded secret.toList (tracedItems unicode r level items) := by
  match items with
  | [] => exact .nil word
  | [item] => exact .front word (shielded_traced word known level item) fun c mem => isalnum_newline mem
  | item :: other :: items =>
    have inner := shielded_items word known level (other :: items)
    have value := Shielded.cross word (shielded_traced word known level item) inner (p := (',', .punctuation))
      (isalnum_layout (by decide))
    exact .front word value fun c mem => isalnum_newline mem

lemma shielded_members (word : Word unicode secret.toList) (known : secret ∈ r.secrets) (level : Nat)
    (members : List (String × Json F)) : Shielded secret.toList (tracedMembers unicode r level members) := by
  have entry (key : String) (value : Traced) (inner : Shielded secret.toList value) :
      Shielded secret.toList (tagged .punctuation (newline level) ++
        (tracedKey key ++ (':', .punctuation) :: (' ', .punctuation) :: value)) := by
    have blank := Shielded.cross word (.nil word) inner (p := (' ', .punctuation)) (isalnum_layout (by decide))
    have named := Shielded.cross word (shielded_key word key) blank (p := (':', .punctuation))
      (isalnum_layout (by decide))
    exact .front word named fun c mem => isalnum_newline mem
  match members with
  | [] => exact .nil word
  | [(key, item)] =>
    apply entry key
    split
    · exact shielded_inserted word redacted
    · exact shielded_traced word known level item
  | (key, item) :: other :: members =>
    have inner := shielded_members word known level (other :: members)
    apply entry key
    refine .cross word ?_ inner (p := (',', .punctuation)) (isalnum_layout (by decide))
    split
    · exact shielded_inserted word redacted
    · exact shielded_traced word known level item

end

/-- Every occurrence of a known secret in the bytes of `redact_json_bytes` overlaps what the redactor inserted, stands
in a key or in a number of the document, or touches an escape. -/
theorem known_secrets_covered {loads : String → Option (Json F)} {value returned : ByteArray} {maxBytes : Nat}
    (accepted : r.redactJsonBytes unicode loads value maxBytes = .ok returned) (known : secret ∈ r.secrets)
    (word : Word unicode secret.toList) :
    ∃ decoded parsed, String.fromUTF8? value = some decoded ∧ loads decoded = some parsed ∧
      (Utf8.bytes (tracedDocument unicode r parsed)).map Prod.fst = returned.data.toList ∧
      ∀ found, found <:+: Utf8.bytes (tracedDocument unicode r parsed) →
        found.map Prod.fst = Utf8.utf8 secret.toList → Covered found := by
  unfold SecretRedactor.redactJsonBytes at accepted
  split at accepted
  · cases accepted
  · cases text : String.fromUTF8? value with
    | none =>
      rw [text] at accepted
      cases accepted
    | some decoded =>
      rw [text] at accepted
      cases document : loads decoded with
      | none =>
        simp only [document] at accepted
        cases accepted
      | some parsed =>
        simp only [document] at accepted
        cases accepted
        refine ⟨decoded, parsed, rfl, document, ?_, fun found inside same => ?_⟩
        · rw [Utf8.map_bytes, Utf8.toUTF8_toList, String.toList_ofList, tracedDocument, List.map_append, map_traced]
          rfl
        · have shielded : Shielded secret.toList (tracedDocument unicode r parsed) :=
            .cross word (shielded_traced word known 0 parsed) (.nil word) (isalnum_layout (by decide))
          obtain ⟨l, stood, chars, rfl⟩ := Utf8.bytes_inside (r.nonempty _ known) inside same
          exact (shielded l stood chars).bytes

/-! ### Runs -/

/-- The bytes that are returned for a text that the reader accepts. -/
lemma redactJsonBytes_text {loads : String → Option (Json F)} {text : String} {maxBytes : Nat} {doc : Json F}
    (fits : text.toUTF8.size ≤ maxBytes) (read : loads text = some doc) :
    r.redactJsonBytes unicode loads text.toUTF8 maxBytes =
      .ok (String.ofList (pretty 0 (r.redactObject unicode doc) ++ ['\n'])).toUTF8 := by
  unfold SecretRedactor.redactJsonBytes
  rw [if_neg (Nat.not_lt.mpr fits), Utf8.fromUTF8_toUTF8]
  simp only [read]

end Documents

/-- A value without other values in it. -/
def scalar : Json Empty → Bool
  | .arr _ | .obj _ => false
  | _ => true

/-- A scalar, or an object with one scalar at most, which has only one order. -/
def narrow : Json Empty → Bool
  | .obj members => members.length ≤ 1 && members.all (scalar ·.2)
  | doc => scalar doc

/-- A reader of narrow documents without fractions. -/
def readJson (text : String) : Option (Json Empty) := (Json.loads text.toList).filter narrow

/-- A secret of letters and digits occurs among the returned bytes of an ASCII document, and nothing was inserted. -/
def Leaks (value secret : String) : Prop :=
  let r := SecretRedactor.ofValues [secret]
  Word (fun _ => false) secret.toList ∧ secret ∈ r.secrets ∧ ∃ doc returned, readJson value = some doc ∧
    r.redactJsonBytes (fun _ => false) readJson value.toUTF8 = .ok returned ∧
    Utf8.utf8 secret.toList <:+: returned.data.toList ∧ ∀ p ∈ tracedDocument (fun _ => false) r doc, p.2 ≠ .inserted

/-- A leak from the text of a document. -/
lemma leaks_of {value secret : String} (doc : Json Empty) (canonical : Json.Canonical doc)
    (small : narrow doc = true) (text : value.toList = Json.dumps doc)
    (word : (secret.toList.all (isalnum fun _ => false) && decide (8 ≤ secret.toList.length)) = true)
    (known : secret ∈ (SecretRedactor.ofValues [secret]).secrets) (fits : value.toUTF8.size ≤ 50 * 1024 * 1024)
    (inside : Utf8.utf8 secret.toList <:+: Utf8.utf8 ((tracedDocument (fun _ => false)
      (SecretRedactor.ofValues [secret]) doc).map Prod.fst))
    (nothing : (tracedDocument (fun _ => false) (SecretRedactor.ofValues [secret]) doc).all
      (fun p => decide (p.2 ≠ .inserted)) = true) : Leaks value secret := by
  obtain ⟨letters, long⟩ := Bool.and_eq_true _ _ |>.mp word
  have read : readJson value = some doc := by
    unfold readJson
    rw [text, Json.loads_dumps canonical, Option.filter_some, if_pos small]
  refine ⟨⟨List.all_eq_true.mp letters, of_decide_eq_true long⟩, known, doc, _, read, redactJsonBytes_text fits read,
    ?_, fun p mem => of_decide_eq_true (List.all_eq_true.mp nothing p mem)⟩
  rw [tracedDocument, List.map_append, map_traced] at inside
  rw [Utf8.toUTF8_toList, String.toList_ofList]
  exact inside

/-- A string that holds a secret twice: once as it is, once after a marker. -/
theorem known_secrets_covered_twice : ∃ decoded parsed,
    String.fromUTF8? "\"abcdefgh secret: abcdefgh\"".toUTF8 = some decoded ∧ readJson decoded = some parsed ∧
    (Utf8.bytes (tracedDocument (fun _ => false) (.ofValues ["abcdefgh"]) parsed)).map Prod.fst =
      (String.ofList (pretty 0 ((SecretRedactor.ofValues ["abcdefgh"]).redactObject (fun _ => false)
        (.str "abcdefgh secret: abcdefgh" : Json Empty)) ++ ['\n'])).toUTF8.data.toList ∧
    ∀ found, found <:+: Utf8.bytes (tracedDocument (fun _ => false) (.ofValues ["abcdefgh"]) parsed) →
      found.map Prod.fst = Utf8.utf8 "abcdefgh".toList → Covered found := by
  have read : readJson "\"abcdefgh secret: abcdefgh\"" = some (.str "abcdefgh secret: abcdefgh") := by
    have text : "\"abcdefgh secret: abcdefgh\"".toList =
        Json.dumps (.str "abcdefgh secret: abcdefgh" : Json Empty) := by
      decide +kernel
    rw [readJson, text, Json.loads_dumps (v := .str "abcdefgh secret: abcdefgh") trivial]
    rfl
  have letters : ∀ c ∈ "abcdefgh".toList, isalnum (fun _ => false) c = true :=
    List.all_eq_true.mp (by decide +kernel)
  have fits : "\"abcdefgh secret: abcdefgh\"".toUTF8.size ≤ 50 * 1024 * 1024 := by decide +kernel
  exact known_secrets_covered (redactJsonBytes_text fits read) (by decide +kernel) ⟨letters, by decide +kernel⟩

/-- A known secret is returned where it is a key, where it is a number, and where the escape of a line break makes
it. -/
theorem known_secret_kept : Leaks "\x7b\"abcdefgh\":null\x7d" "abcdefgh" ∧ Leaks "12345678" "12345678" ∧
    Leaks "\"\\nabcdefgh\"" "nabcdefgh" := by
  refine ⟨?_, ?_, ?_⟩
  · exact leaks_of (.obj [(String.ofList ['a', 'b', 'c', 'd', 'e', 'f', 'g', 'h'], .null)])
      ⟨List.pairwise_singleton _ _, trivial, trivial⟩ rfl (by decide +kernel) (by decide +kernel) (by decide +kernel)
      (by decide +kernel) (by decide +kernel) (by decide +kernel)
  · exact leaks_of (.int 12345678) trivial rfl (by decide +kernel) (by decide +kernel) (by decide +kernel)
      (by decide +kernel) (by decide +kernel) (by decide +kernel)
  · exact leaks_of (.str (String.ofList ['\n', 'a', 'b', 'c', 'd', 'e', 'f', 'g', 'h'])) trivial rfl
      (by decide +kernel) (by decide +kernel) (by decide +kernel) (by decide +kernel) (by decide +kernel)
      (by decide +kernel)

end TacoRank.Coding
