import CommentSeparator.Decimal.Shortest
import CommentSeparator.Style
import CommentSeparator.Text.Quoted
import CommentSeparator.Toml.Value

/-!
# Why a document does not describe styles

Every way in which a document can fail to describe styles is a case of `SchemaError`; the words for
it are in `SchemaError.message`.

What is said of a failure is a chain: what was being done, link by link, and the cause at its end.
The cause is put in words by the TOML library, with the place in the document and an excerpt from
it.  These words are the library's own, so they are given from outside.
-/

namespace CommentSeparator

open Toml (Value)

/-- What stands where something else was expected. -/
inductive Expected where
  | text
  | width
  | header
  | region
  deriving DecidableEq, Repr

/-- Why a document does not describe styles. -/
inductive SchemaError where
  /-- No style has this key; the keys it may have are listed. -/
  | unknownField (key : String) (keys : List String)
  /-- A value of the wrong type. -/
  | invalidType (found : Value) (expected : Expected)
  /-- A width below zero. -/
  | negativeWidth (value : Int64)
  /-- No branch policy has this name. -/
  | unknownVariant (name : String)
  /-- A branch policy that is neither a text nor a table. -/
  | variantOfOtherType
  /-- A branch policy written as a table without entries. -/
  | noVariant
  /-- A branch policy written as a table with several entries. -/
  | manyVariants
  /-- A value beside the name of a branch policy, which must be an empty table. -/
  | contentOfOtherType (found : Value)
  /-- A table beside the name of a branch policy, or an array, that is not empty. -/
  | contentNotEmpty
  /-- An array of tables beside the name of a branch policy. -/
  | tablesNotEmpty

/-- Why a text does not describe styles. -/
inductive StyleError where
  | notToml
  | schema (error : SchemaError)

/-- What a value is, as messages say it.  Tables and date-times are maps. -/
def Toml.Value.describe : Value → String
  | string text => "string " ++ Text.quote text
  | integer value => "integer `" ++ toString value.toInt ++ "`"
  | float value => "floating point `" ++ value.text ++ "`"
  | boolean value => "boolean `" ++ toString value ++ "`"
  | array _ | tables _ => "sequence"
  | dateTime _ | table _ _ => "map"

/-- The name of the type of a value. -/
def Toml.Value.typeName : Value → String
  | string _ => "string"
  | integer _ => "integer"
  | float _ => "float"
  | boolean _ => "boolean"
  | dateTime _ => "datetime"
  | array _ => "array"
  | tables _ => "array of tables"
  | table _ _ => "table"

/-- What was expected, as messages say it. -/
def Expected.describe : Expected → String
  | text => "a string"
  | width => "usize"
  | header => "struct HeaderStyle"
  | region => "struct RegionStyle"

namespace SchemaError

/-- A name between backticks. -/
def ticked (name : String) : String :=
  "`" ++ name ++ "`"

/-- Names of which one was expected. -/
def alternatives : List String → String
  | [] => "nothing"
  | [one] => ticked one
  | [one, other] => ticked one ++ " or " ++ ticked other
  | names => "one of " ++ ", ".intercalate (names.map ticked)

/-- What a message says about a misfit. -/
def message : SchemaError → String
  | unknownField key keys => "unknown field " ++ ticked key ++ ", expected " ++ alternatives keys
  | invalidType found expected =>
    "invalid type: " ++ found.describe ++ ", expected " ++ expected.describe
  | negativeWidth value =>
    "invalid value: " ++ (Value.integer value).describe ++ ", expected " ++ Expected.width.describe
  | unknownVariant name =>
    "unknown variant " ++ ticked name ++ ", expected " ++
      alternatives (BranchPolicy.all.map BranchPolicy.name)
  | variantOfOtherType => "wanted string or table"
  | noVariant => "wanted exactly 1 element, found 0 elements"
  | manyVariants => "wanted exactly 1 element, more than 1 element"
  | contentOfOtherType found => "expected table, found " ++ found.typeName
  | contentNotEmpty => "expected empty table"
  | tablesNotEmpty => "expected empty array"

end SchemaError

namespace StyleError

/-- What is known of the cause without the words of the library. -/
def detail? : StyleError → Option String
  | notToml => none
  | schema error => some error.message

/-- What was being done, and the cause in the given words. -/
def chain (words : StyleError → Option String) (error : StyleError) : List String :=
  "failed to parse style TOML" :: (words error).toList

/-- What a message says about a text that does not describe styles. -/
def message (error : StyleError) (words : StyleError → Option String := detail?) : String :=
  ": ".intercalate (error.chain words)

end StyleError

end CommentSeparator
