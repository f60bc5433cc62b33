/-!
# Escaped text

Reserved characters are replaced by entities, one kind after the other. The ampersand comes first,
so that the entities brought in later are not escaped again; with this order each character is
replaced once and on its own.
-/

namespace MapStyle.Xml

/-- Replaces every occurrence of a character by a text. -/
def replaceChar (c : Char) (text s : List Char) : List Char :=
  s.flatMap fun d => if d = c then text else [d]

/-- Text with the five reserved characters replaced by entities (`xml_escape`). -/
def escape (s : List Char) : List Char :=
  replaceChar '\x27' ['&', '#', '3', '9', ';']
    (replaceChar '\x22' ['&', 'q', 'u', 'o', 't', ';']
      (replaceChar '>' ['&', 'g', 't', ';']
        (replaceChar '<' ['&', 'l', 't', ';']
          (replaceChar '&' ['&', 'a', 'm', 'p', ';'] s))))

@[simp] theorem replaceChar_nil (c : Char) (text : List Char) : replaceChar c text [] = [] := rfl

@[simp] theorem replaceChar_append (c : Char) (text a b : List Char) :
    replaceChar c text (a ++ b) = replaceChar c text a ++ replaceChar c text b := by
  simp [replaceChar]

@[simp] theorem escape_nil : escape [] = [] := rfl

theorem escape_append (a b : List Char) : escape (a ++ b) = escape a ++ escape b := by
  simp [escape]

end MapStyle.Xml
