import RowSelection.Table.Schema

set_option autoImplicit false

namespace RowSelection

def TimeUnit.text : TimeUnit → String
  | .second => "Second"
  | .millisecond => "Millisecond"
  | .microsecond => "Microsecond"
  | .nanosecond => "Nanosecond"

def IntervalUnit.text : IntervalUnit → String
  | .yearMonth => "YearMonth"
  | .dayTime => "DayTime"
  | .monthDayNano => "MonthDayNano"

def UnionMode.text : UnionMode → String
  | .dense => "Dense"
  | .sparse => "Sparse"

def applied (head : String) (arguments : List String) : String :=
  head ++ "(" ++ String.intercalate ", " arguments ++ ")"

def bracketed (items : List String) : String :=
  "[" ++ String.intercalate ", " items ++ "]"

def zoneText : Option String → String
  | none => "None"
  | some zone => applied "Some" [Text.quoted zone]

mutual

def DataType.text : DataType → String
  | .null => "Null"
  | .boolean => "Boolean"
  | .int8 => "Int8"
  | .int16 => "Int16"
  | .int32 => "Int32"
  | .int64 => "Int64"
  | .uint8 => "UInt8"
  | .uint16 => "UInt16"
  | .uint32 => "UInt32"
  | .uint64 => "UInt64"
  | .float16 => "Float16"
  | .float32 => "Float32"
  | .float64 => "Float64"
  | .date32 => "Date32"
  | .date64 => "Date64"
  | .utf8 => "Utf8"
  | .largeUtf8 => "LargeUtf8"
  | .utf8View => "Utf8View"
  | .binary => "Binary"
  | .largeBinary => "LargeBinary"
  | .binaryView => "BinaryView"
  | .timestamp unit zone => applied "Timestamp" [unit.text, zoneText zone]
  | .time32 unit => applied "Time32" [unit.text]
  | .time64 unit => applied "Time64" [unit.text]
  | .duration unit => applied "Duration" [unit.text]
  | .interval unit => applied "Interval" [unit.text]
  | .fixedSizeBinary width => applied "FixedSizeBinary" [toString width]
  | .decimal128 precision scale => applied "Decimal128" [toString precision, toString scale]
  | .decimal256 precision scale => applied "Decimal256" [toString precision, toString scale]
  | .list item => applied "List" [item.text]
  | .listView item => applied "ListView" [item.text]
  | .largeList item => applied "LargeList" [item.text]
  | .largeListView item => applied "LargeListView" [item.text]
  | .fixedSizeList item size => applied "FixedSizeList" [item.text, toString size]
  | .struct members => applied "Struct" [bracketed (fieldTexts members)]
  | .dictionary index value => applied "Dictionary" [index.text, value.text]
  | .map entries sorted => applied "Map" [entries.text, toString sorted]
  | .runEndEncoded ends values => applied "RunEndEncoded" [ends.text, values.text]
  | .union members mode => applied "Union" [bracketed (memberTexts members), mode.text]

def Field.text : Field → String
  | .mk name dataType nullable metadata tag =>
      "Field \x7b name: " ++ Text.quoted name ++ ", data_type: " ++ dataType.text ++
        ", nullable: " ++ toString nullable ++ ", dict_id: " ++ toString tag.id.toInt ++
        ", dict_is_ordered: " ++ toString tag.ordered ++ ", metadata: " ++ metadata.text ++ " \x7d"

def fieldTexts : List Field → List String
  | [] => []
  | field :: rest => field.text :: fieldTexts rest

def UnionMember.text : UnionMember → String
  | .mk id field => applied "" [toString id.toInt, field.text]

def memberTexts : List UnionMember → List String
  | [] => []
  | member :: rest => member.text :: memberTexts rest

end

end RowSelection
