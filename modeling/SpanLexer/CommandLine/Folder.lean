import SpanLexer.Text

/-!
# Files

What reading a file gives, and a folder of files held in memory.

* `ReadError`, `ReadError.message` — why a file cannot be read.
* `decodeText` — the text that bytes encode.
* `Folder`, `Folder.read` — named files and the bytes at a path.
* `Place`, `Folder.walk` — how a path is followed, one name after the other.

A path is followed from the folder, or from the root if it begins with a slash.  What lies outside
the folder is unknown except that it consists of folders, so a path that gets there finds no file.
-/

namespace SpanLexer

/-- Why a file cannot be read. -/
inductive ReadError where
  | notFound
  | isDirectory
  /-- The path goes on after a file. -/
  | notDirectory
  /-- The bytes of the file encode no text. -/
  | notText
  /-- Anything else that the system reports. -/
  | system (message : Text)

namespace ReadError

/-- The reason in words. -/
def message : ReadError → Text
  | notFound => "No such file or directory (os error 2)".toList
  | isDirectory => "Is a directory (os error 21)".toList
  | notDirectory => "Not a directory (os error 20)".toList
  | notText => "stream did not contain valid UTF-8".toList
  | system text => text

end ReadError

/-- The text that bytes encode in UTF-8. -/
def decodeText (bytes : ByteArray) : Except ReadError Text :=
  match String.fromUTF8? bytes with
  | some s => .ok s.toList
  | none => .error .notText

/-- Every text is what its bytes encode. -/
@[simp] theorem decodeText_utf8Encode (t : Text) : decodeText t.utf8Encode = .ok t := by
  have hvalid : ByteArray.IsValidUTF8 t.utf8Encode := ByteArray.isValidUTF8_utf8Encode
  have hstring : String.fromUTF8 t.utf8Encode hvalid = String.ofList t := by
    rw [← String.toByteArray_inj, String.toByteArray_ofList]
    rfl
  unfold decodeText String.fromUTF8?
  rw [dif_pos hvalid, hstring]
  simp

/-- Where a path has led so far: to the folder or into it by some names, or out of it. -/
inductive Place where
  | inside (names : List Text)
  | outside

/-- The place that two dots lead to. -/
def Place.parent : Place → Place
  | inside [] => outside
  | inside names => inside names.dropLast
  | outside => outside

/-- Files by their paths in a folder. -/
structure Folder where
  files : List (Text × ByteArray)

namespace Folder

/-- The names along a path.  Slashes next to each other and at the ends enclose empty names. -/
def names (path : Text) : List Text := path.splitOn '/'

/-- The bytes of the file that some names lead to. -/
def bytesAt? (folder : Folder) (way : List Text) : Option ByteArray :=
  (folder.files.find? (fun file => names file.1 = way)).map Prod.snd

/-- Whether some names lead towards a file. -/
def leadsOn (folder : Folder) (way : List Text) : Bool :=
  folder.files.any (fun file => way.isPrefixOf (names file.1))

/-- Follows names from a place.  An empty name and a dot stay there, two dots go back; a path that
ends before it reaches a file ends in a folder. -/
def walk (folder : Folder) : Place → List Text → Except ReadError ByteArray
  | _, [] => .error .isDirectory
  | place, name :: later =>
      if name = [] ∨ name = ['.'] then folder.walk place later
      else if name = ['.', '.'] then folder.walk place.parent later
      else
        match place with
        | .outside => .error .notFound
        | .inside way =>
            match folder.bytesAt? (way ++ [name]) with
            | some bytes => if later = [] then .ok bytes else .error .notDirectory
            | none =>
                if folder.leadsOn (way ++ [name]) then folder.walk (.inside (way ++ [name])) later
                else .error .notFound

/-- The bytes of the file at a path. -/
def read (folder : Folder) : Text → Except ReadError ByteArray
  | [] => .error .notFound
  | '/' :: later => folder.walk .outside (names later)
  | path => folder.walk (.inside []) (names path)

end Folder
end SpanLexer
