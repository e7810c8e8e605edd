import VestingTable.Proofs.Csv
import VestingTable.Proofs.Table.Numbering

/-!
# Tables that are written as text

A table that is written with commas, and in UTF-8, comes back from its file cell by cell: the rows
from a number on are its rows with their own numbers, however many lines of the file they take
(`Table.read_written`). The number is reported first, and must not be too long for that.

The bytes may have a mark of the encoding ahead of them. If they do not, the text may not start
with the character of that mark, which would be taken for one (`Table.IsEncoded`).
-/

namespace VestingTable.Table

/-! ## Bytes -/

theorem loop_toList (b : ByteArray) (i : Nat) (bytes : List UInt8) :
    ByteArray.toList.loop b i bytes = bytes.reverse ++ b.data.toList.drop i := by
  fun_induction ByteArray.toList.loop b i bytes with
  | case1 i bytes h ih =>
    have hi : i < b.data.toList.length := by simpa using h
    rw [ih, List.drop_eq_getElem_cons hi]
    simp [ByteArray.get!, h]
  | case2 i bytes h =>
    rw [List.drop_eq_nil_of_le (by simpa using Nat.le_of_not_lt h)]
    simp

theorem toByteArray_toList (b : ByteArray) : b.toList.toByteArray = b := by
  refine ByteArray.ext (Array.toList_inj.1 ?_)
  rw [List.toList_data_toByteArray, ByteArray.toList, loop_toList]
  rfl

theorem toList_toByteArray (bytes : List UInt8) : bytes.toByteArray.toList = bytes :=
  List.toByteArray_inj.1 (toByteArray_toList _)

/-! ## Encoded texts -/

/-- The character that a mark of the encoding stands for. -/
def markCharacter : Char := '\ufeff'

/-- The bytes of a text, with a mark of the encoding ahead of them or without one. -/
inductive IsEncoded (text : String) : ByteArray → Prop
  | marked : IsEncoded text (byteOrderMark.toByteArray ++ text.toUTF8)
  | unmarked (h : text.toList.head? ≠ some markCharacter) : IsEncoded text text.toUTF8

variable {text : String} {b : ByteArray}

theorem fromUTF8?_toUTF8 (text : String) : String.fromUTF8? text.toUTF8 = some text := by
  exact dif_pos text.isValidUTF8

theorem decode_toUTF8 {c : Char} {cs : List Char} (h : text.toList = c :: cs) :
    text.toUTF8.utf8DecodeChar? 0 = some c := by
  rw [String.toUTF8_eq_toByteArray, ← String.utf8Encode_toList, h, List.utf8DecodeChar?_utf8Encode_cons]

theorem decode_byteOrderMark (rest : ByteArray) :
    (byteOrderMark.toByteArray ++ rest).utf8DecodeChar? 0 = some markCharacter := by
  have mark : byteOrderMark.toByteArray = [markCharacter].utf8Encode := by decide
  rw [mark, List.utf8DecodeChar?_utf8Encode_singleton_append]

/-- Bytes that are only the start of a mark have no first character. -/
theorem decode_take_byteOrderMark {n : Nat} (h : n < 3) :
    (byteOrderMark.take n).toByteArray.utf8DecodeChar? 0 = none := by
  decide +revert

/-- A text is read from its bytes. -/
theorem markedText?_of_isEncoded (h : IsEncoded text b) : markedText? b = some text := by
  cases h with
  | marked =>
    have size : 3 ≤ (byteOrderMark.toByteArray ++ text.toUTF8).size := by
      simp [byteOrderMark]
    have mark : (byteOrderMark.toByteArray ++ text.toUTF8).extract 0 3 = byteOrderMark.toByteArray :=
      ByteArray.extract_append_eq_left rfl
    have rest : (byteOrderMark.toByteArray ++ text.toUTF8).extract 3
        (byteOrderMark.toByteArray ++ text.toUTF8).size = text.toUTF8 :=
      ByteArray.extract_append_eq_right rfl ByteArray.size_append
    rw [markedText?, if_neg fun h => Nat.not_lt.2 size h.1, mark, toList_toByteArray, if_pos rfl,
      rest, fromUTF8?_toUTF8]
  | unmarked first =>
    cases hchars : text.toList with
    | nil =>
      obtain rfl : text = "" := String.toList_eq_nil_iff.1 hchars
      exact if_pos ⟨by decide, toList_toByteArray []⟩
    | cons c cs =>
      have decoded := decode_toUTF8 hchars
      have short : ¬ (text.toUTF8.size < 3 ∧
          text.toUTF8.toList = byteOrderMark.take text.toUTF8.size) := by
        rintro ⟨hsize, hbytes⟩
        rw [← toByteArray_toList text.toUTF8, hbytes, decode_take_byteOrderMark hsize] at decoded
        cases decoded
      have unmarked : (text.toUTF8.extract 0 3).toList ≠ byteOrderMark := by
        intro hmark
        rw [← List.toByteArray_inj, toByteArray_toList] at hmark
        have size : 3 ≤ text.toUTF8.size := by
          have marked := congrArg ByteArray.size hmark
          rw [ByteArray.size_extract, List.size_toByteArray] at marked
          have three : byteOrderMark.length = 3 := rfl
          omega
        have split := ByteArray.extract_eq_extract_append_extract (a := text.toUTF8) 3
          (Nat.zero_le 3) size
        rw [ByteArray.extract_zero_size, hmark] at split
        rw [split, decode_byteOrderMark] at decoded
        obtain rfl := Option.some.inj decoded
        exact first (by rw [hchars]; rfl)
      rw [markedText?, if_neg short, if_neg unmarked, fromUTF8?_toUTF8]

/-! ## Files -/

variable {file : String} {title : Option String} {header : Nat} {files : Folder}
  {rows : List (List String)}

theorem exists?_of_content? {p : Path} {content : FileContent}
    (h : files.content? p = some content) : files.exists? p = .ok true := by
  unfold Folder.content? at h
  split at h
  · cases h
  · next hnull =>
    split at h
    · next hfind => rw [Folder.exists?, if_neg hnull, hfind]
    · cases h

/-- A table that is written in a file is read from it cell by cell: from a number on, its rows come
    with their own numbers, unless the number cannot be written. -/
theorem read_written (written : Csv.IsTable rows text.toList)
    (fits : ∀ fields ∈ rows, ∀ s ∈ fields, s.length ≤ Csv.maxFieldSize)
    (encoded : IsEncoded text b)
    (hcontent : files.content? (Path.ofText file) = some (.bytes b))
    (hsuffix : Text.lower (Path.ofText file).suffix = ".csv") (hpos : 1 ≤ header) :
    (read file title header).outcome files =
      if Numeral.Fits header then
        .ok (Row.numbered header ((rows.drop (header - 1)).map fun fields => fields.map Cell.text))
      else .error (.longNumeral none) := by
  have hrows : contentRows? .text (Path.ofText file) title header (.bytes b) = some (Row.numbered
      header ((rows.drop (header - 1)).map fun fields => fields.map Cell.text)) := by
    have first : 1 + ((header - 1 : Nat) : Int) = header := by omega
    simp only [contentRows?, if_true, markedText?_of_isEncoded encoded, Option.bind_eq_bind,
      Option.bind_some, Csv.read?_of_isTable written fits, textRows_eq rows hpos,
      ← Row.numbered_drop, first, List.map_drop]
    rfl
  have found := exists?_of_content? hcontent
  split
  · next fits =>
    have hkind : Kind.ofSuffix? ".csv" = some .text := by decide
    exact outcome_read_eq_ok_iff.2 ⟨found, fits, .text, _, hsuffix ▸ hkind, hcontent, hrows⟩
  · next long => exact outcome_read_of_long found long

/-! ### A table with all kinds of fields -/

/-- Fields with a comma, with marks and a line end, a row without fields, and fields that are
    empty. -/
def quotedRows : List (List String) :=
  [["a,b", "say \x22hi\x22\nbye"], [], [""], ["x", ""]]

/-- The rows as they are written, with both line ends. -/
def quotedText : String :=
  "\x22a,b\x22,\x22say \x22\x22hi\x22\x22\nbye\x22\r\n\n\x22\x22\nx,\n"

/-- A folder with the rows in a file with a mark of the encoding. -/
def quotedFiles : Folder where
  nodes := [(⟨.workingDirectory, ["quoted.csv"]⟩,
    .file (.bytes (byteOrderMark.toByteArray ++ quotedText.toUTF8)))]

theorem isTable_quotedText : Csv.IsTable quotedRows quotedText.toList := by
  have plain : Csv.IsField "x" "x".toList := .plain (by simp [Csv.specials])
  have empty : Csv.IsField "" "".toList := .plain (by simp)
  have written : Csv.IsTable quotedRows _ :=
    .cons (.fields (.more .marked (.last .marked)) (by decide)) (.tail _ (.head _))
      (.cons .empty (.head _)
        (.cons (.fields (.last .marked) (by decide)) (.head _)
          (.cons (.fields (.more plain (.last empty)) (by decide)) (.head _) .nil)))
  exact written

theorem read_written_quoted :
    Csv.IsTable quotedRows quotedText.toList ∧
      (∀ fields ∈ quotedRows, ∀ s ∈ fields, s.length ≤ Csv.maxFieldSize) ∧
      IsEncoded quotedText (byteOrderMark.toByteArray ++ quotedText.toUTF8) ∧
      (read "quoted.csv" none (2 : Nat)).outcome quotedFiles =
        .ok [⟨2, []⟩, ⟨3, [.text ""]⟩, ⟨4, [.text "x", .text ""]⟩] := by
  have fits : ∀ fields ∈ quotedRows, ∀ s ∈ fields, s.length ≤ Csv.maxFieldSize := by
    decide +kernel
  refine ⟨isTable_quotedText, fits, .marked, ?_⟩
  rw [read_written isTable_quotedText fits .marked (by rfl) (by decide +kernel) (by decide),
    if_pos (by decide +kernel)]
  rfl

/-- A table is not read from every row on: the number of the row may be too long to be reported. -/
theorem not_read_written_long :
    ¬ ∀ (rows : List (List String)) (text : String) (b : ByteArray) (file : String)
      (title : Option String) (header : Nat) (files : Folder), Csv.IsTable rows text.toList →
      (∀ fields ∈ rows, ∀ s ∈ fields, s.length ≤ Csv.maxFieldSize) → IsEncoded text b →
      files.content? (Path.ofText file) = some (.bytes b) →
      Text.lower (Path.ofText file).suffix = ".csv" → 1 ≤ header →
      (read file title header).outcome files =
        .ok (Row.numbered header
          ((rows.drop (header - 1)).map fun fields => fields.map Cell.text)) := by
  intro claimed
  have fits : ∀ fields ∈ quotedRows, ∀ s ∈ fields, s.length ≤ Csv.maxFieldSize := by
    decide +kernel
  have read := claimed quotedRows quotedText _ "quoted.csv" none Numeral.leastLong quotedFiles
    isTable_quotedText fits .marked (by rfl) (by decide +kernel) (by decide +kernel)
  exact Numeral.not_fits_leastLong (outcome_read_eq_ok_iff.1 read).2.1

end VestingTable.Table
