import VideoCapture.Delivery.SessionDescription
import VideoCapture.Proofs.Bytes.Base64
import VideoCapture.Proofs.ParameterSets.Configuration

/-!
# Session descriptions are understood

What a receiver does with a session description: it parts the text into lines, finds the payload type in the lines that
have one, and parts the format parameters into names and values, some of which are base64 texts. Nothing that stands
between two separators contains such a separator itself, so the receiver finds every line, one payload type throughout,
and the parameter sets that the format parameters were made from.
-/

namespace VideoCapture

namespace Reception

/-- What stands between line ends, each of which is a carriage return and a line feed. -/
def splitLines : List Char → List (List Char)
  | [] => [[]]
  | '\r' :: '\n' :: rest => [] :: splitLines rest
  | c :: rest => (splitLines rest).modifyHead (c :: ·)

/-- The lines of a text. -/
def lines (text : String) : List String :=
  (splitLines text.toList).map String.ofList

/-- What follows a name, for each of the lines that begin with it. -/
def fields (name : String) (lines : List String) : List (List Char) :=
  lines.filterMap fun line => name.toList.isPrefixOf? line.toList

/-- The decimal number that some characters make up. -/
def number? (chars : List Char) : Option Nat :=
  if chars ≠ [] ∧ chars.all Char.isDigit then some (Nat.ofDigitChars 10 chars 0) else none

/-- The number at one of the words of a field. -/
def numberAt? (index : Nat) (field : List Char) : Option Nat :=
  (field.splitOn ' ')[index]?.bind number?

/-- A format parameter by its name and its value. Padding in the value is no second separator. -/
def nameAndValue (parameter : List Char) : List Char × List Char :=
  (parameter.takeWhile (· ≠ '='), (parameter.dropWhile (· ≠ '=')).drop 1)

/-- The value of a format parameter. -/
def value? (parameters : List Char) (name : String) : Option (List Char) :=
  ((parameters.splitOn ';').map nameAndValue).lookup name.toList

/-- The parameter sets among format parameters. -/
def sets? (codec : Codec) (parameters : List Char) : Option (List Bytes) :=
  match codec with
  | .h264 => do
    let texts ← value? parameters "sprop-parameter-sets"
    (texts.splitOn ',').mapM Bytes.Base64.bytes?
  | .h265 => ["sprop-vps", "sprop-sps", "sprop-pps"].mapM fun name => do
    let text ← value? parameters name
    Bytes.Base64.bytes? text

/-- The parameter sets in the one line that gives format parameters. -/
def parameterSets? (codec : Codec) (lines : List String) : Option (List Bytes) := do
  let [field] := fields "a=fmtp:" lines | none
  let [_, parameters] := field.splitOn ' ' | none
  sets? codec parameters

/-- Characters without the separator are one piece. -/
lemma splitOn_free {c : Char} {chars : List Char} (free : c ∉ chars) : chars.splitOn c = [chars] := by
  rw [List.splitOn_eq_splitOnP]
  refine List.splitOnP_eq_singleton fun d inside => beq_eq_false_iff_ne.mpr ?_
  rintro rfl
  exact free inside

/-- The first piece ends at the first separator. -/
lemma splitOn_append {c : Char} {chars : List Char} (free : c ∉ chars) (rest : List Char) :
    (chars ++ c :: rest).splitOn c = chars :: rest.splitOn c := by
  have first := splitOn_free free
  rw [List.splitOn_eq_splitOnP] at first ⊢
  rw [List.splitOnP_append_cons (p := (· == c)) _ _ (beq_self_eq_true c), first, List.splitOn_eq_splitOnP,
    List.singleton_append]

/-- The first line ends at the first line end, if no carriage return comes before it. -/
lemma splitLines_append {line : List Char} (free : '\r' ∉ line) (rest : List Char) :
    splitLines (line ++ '\r' :: '\n' :: rest) = line :: splitLines rest := by
  induction line with
  | nil => rfl
  | cons c line ih =>
    obtain ⟨other, free⟩ := List.ne_and_not_mem_of_not_mem_cons free
    rw [List.cons_append, splitLines, ih free, List.modifyHead_cons]
    rintro rest rfl
    exact absurd rfl other

/-- Lines that are joined with line ends behind them are found again, with an empty one at the end. -/
lemma lines_join {parts : List String} (free : ∀ part ∈ parts, '\r' ∉ part.toList) :
    lines (String.join (parts.map (· ++ "\r\n"))) = parts ++ [""] := by
  rw [lines, String.toList_join]
  induction parts with
  | nil => rfl
  | cons part rest ih =>
    obtain ⟨first, others⟩ := List.forall_mem_cons.mp free
    rw [List.map_cons, List.flatMap_cons, String.toList_append, List.append_assoc]
    have ends : "\r\n".toList = ['\r', '\n'] := by decide
    rw [ends, List.cons_append, List.cons_append, List.nil_append, splitLines_append first, List.map_cons,
      ih others, String.ofList_toList, List.cons_append]

/-- The name of a parameter ends at the first sign of equality, and the rest is its value. -/
lemma nameAndValue_append {name : List Char} (free : '=' ∉ name) (value : List Char) :
    nameAndValue (name ++ '=' :: value) = (name, value) := by
  have others : ∀ c ∈ name, decide (c ≠ '=') = true := by
    intro c inside
    rw [decide_eq_true_eq]
    rintro rfl
    exact free inside
  rw [nameAndValue, List.takeWhile_append_of_pos others, List.dropWhile_append_of_pos others,
    List.takeWhile_cons_of_neg (by decide), List.dropWhile_cons_of_neg (by decide), List.append_nil]
  rfl

/-- A format parameter as it is written. -/
def parameter (name : String) (value : List Char) : List Char :=
  name.toList ++ '=' :: value

variable {name other : String} {value : List Char}

/-- A parameter by itself gives its value under its name and none under another. -/
lemma value?_parameter (plain : '=' ∉ name.toList) (plain' : ';' ∉ name.toList) (free : ';' ∉ value) :
    value? (parameter name value) other = if other.toList = name.toList then some value else none := by
  have whole : ';' ∉ parameter name value := by
    simp [parameter, plain', free]
  rw [value?, splitOn_free whole, List.map_singleton, parameter, nameAndValue_append plain]
  simp only [List.lookup_cons, List.lookup_nil]
  split <;> simp_all

/-- A parameter in front of others hides those of its name and no others. -/
lemma value?_append (plain : '=' ∉ name.toList) (plain' : ';' ∉ name.toList) (free : ';' ∉ value)
    (rest : List Char) :
    value? (parameter name value ++ ';' :: rest) other =
      if other.toList = name.toList then some value else value? rest other := by
  have whole : ';' ∉ parameter name value := by
    simp [parameter, plain', free]
  rw [value?, splitOn_append whole, List.map_cons, parameter, nameAndValue_append plain]
  simp only [List.lookup_cons]
  split <;> simp_all [value?]

/-- A number is written with its decimal digits. -/
lemma toList_toString (n : Nat) : (toString n).toList = Nat.toDigits 10 n :=
  Nat.toList_repr

/-- A number that is written is read again. -/
lemma number?_toString (n : Nat) : number? (toString n).toList = some n := by
  have some_digit : Nat.toDigits 10 n ≠ [] := by
    intro none
    exact absurd (congrArg List.length none) (Nat.ne_of_gt Nat.length_toDigits_pos)
  have all : (Nat.toDigits 10 n).all Char.isDigit = true :=
    List.all_eq_true.mpr fun c inside => Nat.isDigit_of_mem_toDigits (by decide) (by decide) inside
  rw [toList_toString, number?, if_pos ⟨some_digit, all⟩, Nat.ofDigitChars_ten_toDigits]

/-- Only digits occur in a number that is written. -/
lemma not_mem_toString {c : Char} (other : c.isDigit = false) (n : Nat) : c ∉ (toString n).toList := by
  rw [toList_toString]
  intro inside
  cases other.symm.trans (Nat.isDigit_of_mem_toDigits (by decide) (by decide) inside)

/-- What format parameters say and in which words. -/
lemma h264_parameters {sets : ParameterSets} {line : String} (described : sets.formatParameters .h264 = .ok line) :
    ∃ sps pps profile : Bytes, sets.ordered .h264 = .ok [sps, pps] ∧
      line.toList = parameter "profile-level-id" (Bytes.Hex.chars profile) ++
        ';' :: parameter "sprop-parameter-sets" (Bytes.Base64.chars sps ++ ',' :: Bytes.Base64.chars pps) := by
  obtain ⟨sps, sps_eq, described⟩ := ParameterSets.of_bind_ok described
  obtain ⟨text, text_eq, described⟩ := ParameterSets.of_bind_ok described
  obtain ⟨sprop, sprop_eq, described⟩ := ParameterSets.of_bind_ok described
  obtain ⟨sps', sps_eq', sprop_eq⟩ := ParameterSets.of_bind_ok sprop_eq
  obtain ⟨pps, pps_eq, sprop_eq⟩ := ParameterSets.of_bind_ok sprop_eq
  cases sps_eq.symm.trans sps_eq'
  cases sprop_eq
  cases described
  have in_order := ParameterSets.ordered_h264 sps_eq pps_eq
  rw [Avc.profileLevelId] at text_eq
  cases profile_eq : Avc.profileBytes sps with
  | error error =>
    rw [profile_eq] at text_eq
    cases text_eq
  | ok profile =>
    rw [profile_eq] at text_eq
    cases text_eq
    refine ⟨sps, pps, profile, in_order, ?_⟩
    simp only [String.toList_append, Bytes.Hex.text, Bytes.Base64.text, String.toList_ofList, String.reduceToList,
      parameter, List.append_assoc, List.cons_append, List.nil_append]

/-- The format parameters of an H.265 stream are its three parameter sets, each under its name. -/
lemma h265_parameters {sets : ParameterSets} {line : String} (described : sets.formatParameters .h265 = .ok line) :
    ∃ vps sps pps : Bytes, sets.ordered .h265 = .ok [vps, sps, pps] ∧
      line.toList = parameter "sprop-vps" (Bytes.Base64.chars vps) ++ ';' ::
        (parameter "sprop-sps" (Bytes.Base64.chars sps) ++ ';' :: parameter "sprop-pps" (Bytes.Base64.chars pps)) := by
  obtain ⟨vps, vps_eq, described⟩ := ParameterSets.of_bind_ok described
  obtain ⟨sps, sps_eq, described⟩ := ParameterSets.of_bind_ok described
  obtain ⟨pps, pps_eq, described⟩ := ParameterSets.of_bind_ok described
  cases described
  refine ⟨vps, sps, pps, ParameterSets.ordered_h265 vps_eq sps_eq pps_eq, ?_⟩
  simp only [String.toList_append, Bytes.Base64.text, String.toList_ofList, String.reduceToList, parameter,
    List.append_assoc, List.cons_append, List.nil_append]

/-- What a session description offers in front of the format parameters. -/
def preamble : Codec → String
  | .h264 => "packetization-mode=1;"
  | .h265 => ""

/-- Only its own characters occur in a Base64 text. -/
lemma not_mem_base64 {c : Char} (other : ¬ Bytes.Base64.IsText c) (data : Bytes) : c ∉ Bytes.Base64.chars data :=
  fun inside => other (Bytes.Base64.isText_chars data c inside)

/-- Only letters and digits occur in a hexadecimal text. -/
lemma not_mem_hex {c : Char} (other : c.isAlphanum = false) (data : Bytes) : c ∉ Bytes.Hex.chars data := by
  have digits : ∀ n < 16, (Bytes.Hex.digit n).isAlphanum = true := by decide
  intro inside
  obtain ⟨b, -, inside⟩ := List.mem_flatMap.mp inside
  have byte := b.toNat_lt
  simp only [List.mem_cons, List.not_mem_nil, or_false] at inside
  rcases inside with rfl | rfl
  · cases other.symm.trans (digits _ (by omega))
  · cases other.symm.trans (digits _ (by omega))

/-- What separates words and lines does not occur in format parameters. -/
lemma not_mem_parameters {codec : Codec} {sets : ParameterSets} {line : String}
    (described : sets.formatParameters codec = .ok line) {c : Char} (separates : c = ' ' ∨ c = '\r') :
    c ∉ (preamble codec ++ line).toList := by
  have not_text : ¬ Bytes.Base64.IsText c := by
    rcases separates with rfl | rfl <;> decide
  have not_hex : c.isAlphanum = false := by
    rcases separates with rfl | rfl <;> decide
  cases codec with
  | h264 =>
    obtain ⟨sps, pps, profile, -, written⟩ := h264_parameters described
    rcases separates with rfl | rfl <;>
      simp [preamble, written, parameter, not_mem_base64 not_text, not_mem_hex not_hex]
  | h265 =>
    obtain ⟨vps, sps, pps, -, written⟩ := h265_parameters described
    rcases separates with rfl | rfl <;> simp [preamble, written, parameter, not_mem_base64 not_text]

/-- The parameter sets are found in their description, on its own and as it is offered. -/
lemma sets?_described {codec : Codec} {sets : ParameterSets} {line : String}
    (described : sets.formatParameters codec = .ok line) :
    ∃ required, sets.ordered codec = .ok required ∧ sets? codec line.toList = some required ∧
      sets? codec (preamble codec ++ line).toList = some required := by
  have no_semicolon := @not_mem_base64 ';' (by decide)
  cases codec with
  | h264 =>
    obtain ⟨sps, pps, profile, in_order, written⟩ := h264_parameters described
    have texts : ';' ∉ Bytes.Base64.chars sps ++ ',' :: Bytes.Base64.chars pps := by
      simp [no_semicolon]
    have found : sets? .h264 line.toList = some [sps, pps] := by
      rw [sets?, written, value?_append (by simp) (by simp) (not_mem_hex (by decide) _), if_neg (by simp),
        value?_parameter (by simp) (by simp) texts, if_pos rfl, Option.bind_eq_bind, Option.bind_some,
        splitOn_append (not_mem_base64 (by decide) _), splitOn_free (not_mem_base64 (by decide) _), List.mapM_cons,
        List.mapM_cons, Bytes.Base64.bytes?_chars, Bytes.Base64.bytes?_chars]
      rfl
    refine ⟨[sps, pps], in_order, found, ?_⟩
    have front : (preamble .h264 ++ line).toList = parameter "packetization-mode" ['1'] ++ ';' :: line.toList := by
      simp only [preamble, parameter, String.toList_append, String.reduceToList, List.cons_append, List.nil_append]
    rw [← found, sets?, sets?, front, value?_append (by simp) (by simp) (by decide), if_neg (by simp)]
  | h265 =>
    obtain ⟨vps, sps, pps, in_order, written⟩ := h265_parameters described
    have first : value? line.toList "sprop-vps" = some (Bytes.Base64.chars vps) := by
      rw [written, value?_append (by simp) (by simp) (no_semicolon _), if_pos rfl]
    have second : value? line.toList "sprop-sps" = some (Bytes.Base64.chars sps) := by
      rw [written, value?_append (by simp) (by simp) (no_semicolon _), if_neg (by simp),
        value?_append (by simp) (by simp) (no_semicolon _), if_pos rfl]
    have third : value? line.toList "sprop-pps" = some (Bytes.Base64.chars pps) := by
      rw [written, value?_append (by simp) (by simp) (no_semicolon _), if_neg (by simp),
        value?_append (by simp) (by simp) (no_semicolon _), if_neg (by simp),
        value?_parameter (by simp) (by simp) (no_semicolon _), if_pos rfl]
    have found : sets? .h265 line.toList = some [vps, sps, pps] := by
      simp only [sets?, List.mapM_cons, List.mapM_nil, first, second, third, Option.bind_eq_bind, Option.bind_some,
        Bytes.Base64.bytes?_chars, Option.pure_def]
    have front : preamble .h265 ++ line = line := String.empty_append
    exact ⟨[vps, sps, pps], in_order, found, by rw [front, found]⟩

/-- The parameter sets and the codec follow from the format parameters. -/
lemma eq_of_formatParameters {codec codec' : Codec} {sets sets' : ParameterSets} {line : String}
    (described : sets.formatParameters codec = .ok line) (described' : sets'.formatParameters codec' = .ok line) :
    codec = codec' ∧ sets.ordered codec = sets'.ordered codec' := by
  -- the first letter tells the codec
  have begins : ∀ (codec : Codec) (sets : ParameterSets), sets.formatParameters codec = .ok line →
      line.toList.head? = some (match codec with | .h264 => 'p' | .h265 => 's') := by
    intro codec sets described
    cases codec with
    | h264 =>
      obtain ⟨sps, pps, profile, -, written⟩ := h264_parameters described
      simp [written, parameter]
    | h265 =>
      obtain ⟨vps, sps, pps, -, written⟩ := h265_parameters described
      simp [written, parameter]
  have same : codec = codec' := by
    have letter := (begins codec sets described).symm.trans (begins codec' sets' described')
    cases codec <;> cases codec' <;> first | rfl | simp at letter
  subst same
  obtain ⟨required, in_order, found, -⟩ := sets?_described described
  obtain ⟨required', in_order', found', -⟩ := sets?_described described'
  refine ⟨rfl, ?_⟩
  rw [in_order, in_order', Option.some.inj (found.symm.trans found')]

/-- The texts of a session description that do not follow from the source. -/
def texts (config : SessionConfig) : List String :=
  [config.address, config.username, config.sessionId, config.sessionVersion, config.sessionName]

/-- The lines about the session itself. -/
def sessionLines (config : SessionConfig) : List String :=
  [ "v=0",
    "o=" ++ config.username ++ " " ++ config.sessionId ++ " " ++ config.sessionVersion ++ " IN IP4 " ++ config.address,
    "s=" ++ config.sessionName,
    "c=IN IP4 " ++ config.address,
    "t=0 0",
    "a=tool:camstream",
    "a=sendonly" ]

/-- The line about a stream and its attributes. -/
def streamLines (type : Nat) (encoding parameters : String) : List String :=
  [ "m=video 0 RTP/AVP " ++ toString type,
    "a=rtpmap:" ++ toString type ++ " " ++ encoding ++ "/" ++ toString 90000,
    "a=fmtp:" ++ toString type ++ " " ++ parameters,
    "a=control:track1" ]

/-- The lines that describe a video stream whose format parameters are known. -/
lemma mediaAttributes_video (codec : Codec) (type : Nat) (line : String) :
    SessionDescription.mediaAttributes (.video codec) type (some line) =
      [SessionDescription.rtpmap type codec.encodingName, SessionDescription.fmtp type (preamble codec ++ line),
        "a=control:track1"] := by
  cases codec with
  | h264 =>
    have same : "packetization-mode=1" ++ (";" ++ line) = preamble .h264 ++ line := by
      rw [← String.append_assoc]
      rfl
    exact congrArg (fun parameters => [_, SessionDescription.fmtp type parameters, _]) same
  | h265 =>
    have same : line = preamble .h265 ++ line := String.empty_append.symm
    exact congrArg (fun parameters => [_, SessionDescription.fmtp type parameters, _]) same

section Session

variable {source : VideoSource} {config : SessionConfig} {codec : Codec} {sets : ParameterSets} {line : String}

/-- A session description has the lines of the session and then those of the stream. -/
lemma lines_eq (format : source.format.pixelFormat = .video codec) (published : source.parameters = some line) :
    SessionDescription.lines source config =
      sessionLines config ++ streamLines config.payloadType codec.encodingName (preamble codec ++ line) := by
  rw [SessionDescription.lines, format, published, mediaAttributes_video]
  rfl

/-- No line about the session has a carriage return in it if none of the configured texts has one. -/
lemma sessionLines_free (free : ∀ text ∈ texts config, '\r' ∉ text.toList) :
    ∀ part ∈ sessionLines config, '\r' ∉ part.toList := by
  simp only [texts, List.forall_mem_cons] at free
  simp [sessionLines, free]

/-- No line about the stream has a carriage return in it if the format parameters have none. -/
lemma streamLines_free (codec : Codec) (type : Nat) {parameters : String} (free : '\r' ∉ parameters.toList) :
    ∀ part ∈ streamLines type codec.encodingName parameters, '\r' ∉ part.toList := by
  have number : ∀ n, '\r' ∉ Nat.toDigits 10 n := fun n => toList_toString n ▸ not_mem_toString (by decide) n
  cases codec <;> simp [streamLines, Codec.encodingName, number, free]

/-- A session description comes apart into the lines that were put into it, and nothing stands behind the last one. -/
lemma lines_text (format : source.format.pixelFormat = .video codec) (published : source.parameters = some line)
    (described : sets.formatParameters codec = .ok line) (free : ∀ text ∈ texts config, '\r' ∉ text.toList) :
    lines (SessionDescription.text source config) =
      sessionLines config ++ streamLines config.payloadType codec.encodingName (preamble codec ++ line) ++ [""] := by
  rw [SessionDescription.text, lines_eq format published]
  refine lines_join fun part inside => ?_
  rcases List.mem_append.mp inside with inside | inside
  · exact sessionLines_free free part inside
  · exact streamLines_free codec _ (not_mem_parameters described (.inr rfl)) part inside

end Session

section Fields

variable (config : SessionConfig) (type : Nat) (encoding parameters : String)

/-- The fields of lines are the one of the first line, if it begins with the name, and those of the others. -/
lemma fields_cons (name line : String) (lines : List String) :
    fields name (line :: lines) = (name.toList.isPrefixOf? line.toList).toList ++ fields name lines := by
  rw [fields, List.filterMap_cons]
  cases name.toList.isPrefixOf? line.toList <;> rfl

/-- The empty name stands in front of every line. -/
lemma isPrefixOf?_nil (line : List Char) : [].isPrefixOf? line = some line := by
  cases line <;> rfl

/-- A name stands in front of a line if their first characters agree and the rest of the name stands in front of the
rest. -/
lemma isPrefixOf?_cons (c d : Char) (name line : List Char) :
    (c :: name).isPrefixOf? (d :: line) = if c == d then name.isPrefixOf? line else none :=
  rfl

/-- No name but the empty one stands in front of an empty line. -/
lemma isPrefixOf?_end (c : Char) (name : List Char) : (c :: name).isPrefixOf? [] = none :=
  rfl

/-- The fields with a payload type stand in one line each. -/
lemma fields_lines :
    let lines := sessionLines config ++ streamLines type encoding parameters ++ [""]
    fields "m=" lines =
        ["video".toList ++ ' ' :: ("0".toList ++ ' ' :: ("RTP/AVP".toList ++ ' ' :: (toString type).toList))] ∧
      fields "a=rtpmap:" lines = [(toString type).toList ++ ' ' :: (encoding ++ "/" ++ toString 90000).toList] ∧
      fields "a=fmtp:" lines = [(toString type).toList ++ ' ' :: parameters.toList] := by
  have nothing : ∀ name, fields name [] = [] := fun _ => rfl
  refine ⟨?_, ?_, ?_⟩ <;>
    simp only [sessionLines, streamLines, List.cons_append, List.nil_append, fields_cons, nothing, String.toList_append,
      String.reduceToList, List.append_assoc, isPrefixOf?_nil, isPrefixOf?_cons, isPrefixOf?_end, Char.reduceBEq,
      Bool.false_eq_true, if_false, if_true, Option.toList_none, Option.toList_some, List.append_nil,
      String.toList_empty]

/-- The payload type is the first word behind the name of the field. -/
lemma numberAt?_first (rest : List Char) : numberAt? 0 ((toString type).toList ++ ' ' :: rest) = some type := by
  rw [numberAt?, splitOn_append (not_mem_toString (by decide) type), List.getElem?_cons_zero, Option.bind_some,
    number?_toString]

/-- The payload type is the fourth word of the media line. -/
lemma numberAt?_media : numberAt? 3 ("video".toList ++ ' ' ::
    ("0".toList ++ ' ' :: ("RTP/AVP".toList ++ ' ' :: (toString type).toList))) = some type := by
  rw [numberAt?, splitOn_append (by simp), splitOn_append (by simp), splitOn_append (by simp),
    splitOn_free (not_mem_toString (by decide) type)]
  exact number?_toString type

end Fields

end Reception

open Reception

/-- Complete parameter sets have a description, and a receiver of a session description that offers it finds the lines
of the session, one video stream, one payload type in all lines that name one, and these parameter sets. No others have
the same description. A line feed on its own would not break a line. -/
theorem session_described {codec : Codec} {sets : ParameterSets} (complete : sets.isComplete codec = true)
    (long : codec = .h264 → ∀ sps, sets.get? .sps = some sps → 4 ≤ sps.length) :
    ∃ required line, sets.ordered codec = .ok required ∧ sets.formatParameters codec = .ok line ∧
      (∀ (source : VideoSource) (config : SessionConfig), source.format.pixelFormat = .video codec →
        source.parameters = some line → (∀ text ∈ texts config, '\r' ∉ text.toList) →
        let read := lines (SessionDescription.text source config)
        read = sessionLines config ++ streamLines config.payloadType codec.encodingName (preamble codec ++ line) ++
            [""] ∧
          (fields "m=" read).map (numberAt? 3) = [some config.payloadType] ∧
          (fields "a=rtpmap:" read).map (numberAt? 0) = [some config.payloadType] ∧
          (fields "a=fmtp:" read).map (numberAt? 0) = [some config.payloadType] ∧
          parameterSets? codec read = some required) ∧
      ∀ (codec' : Codec) (sets' : ParameterSets), sets'.formatParameters codec' = .ok line →
        codec' = codec ∧ sets'.ordered codec' = .ok required := by
  have describable : (sets.formatParameters codec).toOption ≠ none := by
    rw [Ne, ParameterSets.formatParameters_eq_none_iff, complete]
    rintro (impossible | ⟨avc, sps, found, short⟩)
    · cases impossible
    · exact absurd (long avc sps found) (Nat.not_le.mpr short)
  cases described : sets.formatParameters codec with
  | error error =>
    rw [described] at describable
    exact absurd rfl describable
  | ok line =>
    obtain ⟨required, in_order, -, found⟩ := sets?_described described
    refine ⟨required, line, in_order, rfl, ?_, ?_⟩
    · intro source config format published free read
      have read_eq : read = _ := lines_text format published described free
      obtain ⟨media, rtpmap, fmtp⟩ :=
        fields_lines config config.payloadType codec.encodingName (preamble codec ++ line)
      refine ⟨read_eq, ?_, ?_, ?_, ?_⟩
      · rw [read_eq, media, List.map_singleton, numberAt?_media]
      · rw [read_eq, rtpmap, List.map_singleton, numberAt?_first]
      · rw [read_eq, fmtp, List.map_singleton, numberAt?_first]
      · rw [read_eq, parameterSets?, fmtp]
        dsimp only
        rw [splitOn_append (not_mem_toString (by decide) _),
          splitOn_free (not_mem_parameters described (.inl rfl))]
        exact found
    · intro codec' sets' described'
      obtain ⟨same, ordered⟩ := eq_of_formatParameters described' described
      exact ⟨same, ordered.trans in_order⟩

/-- Both texts of these sets end in padding, one of them in the middle of the line. -/
theorem session_described_padded :
    let sets := ParameterSets.ofH264 [0x67, 0x42, 0x00, 0x1E] [0x68, 0x01]
    let line := "profile-level-id=42001e;sprop-parameter-sets=Z0IAHg==,aAE="
    let source : VideoSource := ⟨⟨1280, 720, 30, .video .h264⟩, some line, none⟩
    let config : SessionConfig := { sessionName := "front door", payloadType := 97 }
    sets.isComplete .h264 = true ∧
      (Codec.h264 = .h264 → ∀ sps, sets.get? .sps = some sps → 4 ≤ sps.length) ∧
      sets.formatParameters .h264 = .ok line ∧
      (∀ text ∈ texts config, '\r' ∉ text.toList) ∧
      (fields "a=fmtp:" (lines (SessionDescription.text source config))).map (numberAt? 0) = [some 97] ∧
      parameterSets? .h264 (lines (SessionDescription.text source config)) =
        some [[0x67, 0x42, 0x00, 0x1E], [0x68, 0x01]] := by
  intro sets line source config
  have complete : sets.isComplete .h264 = true := rfl
  have long : Codec.h264 = .h264 → ∀ sps, sets.get? .sps = some sps → 4 ≤ sps.length := by
    intro _ sps found
    cases found
    decide
  have free : ∀ text ∈ texts config, '\r' ∉ text.toList := by
    simp [texts, config]
  have written : sets.formatParameters .h264 = .ok line :=
    congrArg Except.ok (by decide +kernel : "profile-level-id=" ++ Bytes.Hex.text [0x42, 0x00, 0x1E] ++
      ";sprop-parameter-sets=" ++
        (Bytes.Base64.text [0x67, 0x42, 0x00, 0x1E] ++ "," ++ Bytes.Base64.text [0x68, 0x01]) = line)
  obtain ⟨required, line', in_order, described, received, -⟩ := session_described complete long
  cases in_order
  cases described.symm.trans written
  obtain ⟨-, -, -, type, found⟩ := received source config rfl rfl free
  exact ⟨complete, long, written, free, type, found⟩

end VideoCapture
