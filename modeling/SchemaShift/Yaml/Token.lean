import SchemaShift.Yaml.Scalar

/-!
# Tokens of YAML text

A document is a sequence of tokens. Where indentation carries meaning, tokens say so: a block
starts where the text is indented deeper and ends where it is indented less.
-/

namespace SchemaShift.Yaml

/-- What a tag is written as. -/
structure TagName where
  /-- What a directive gives a meaning to; `none` where the suffix is the whole tag. -/
  handle : Option String
  /-- The rest, as bytes of text. -/
  suffix : List UInt8
deriving DecidableEq, Repr

/-- An instruction in front of a document. -/
inductive Directive where
  | version
  /-- What a handle of tags stands for. -/
  | handle (name : String) (meaning : List UInt8)
deriving DecidableEq, Repr

/-- The tokens of a text. -/
inductive Token where
  | directive (d : Directive)
  | documentStart
  | documentEnd
  | blockListStart
  | blockRecordStart
  | blockEnd
  | flowListStart
  | flowListEnd
  | flowRecordStart
  | flowRecordEnd
  /-- The dash of an item in a block. -/
  | item
  | comma
  | key
  | value
  | reference (name : String)
  | anchor (name : String)
  | tag (name : TagName)
  | scalar (text : String) (style : Style)
deriving DecidableEq, Repr

end SchemaShift.Yaml
