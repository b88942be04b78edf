/-! What can be wrong with a field, and the name each problem is reported under. -/
namespace SubscriptionBilling

inductive Problem where
  | missing
  | notText
  | brokenText
  | tooShort
  | tooLong
  | notWhole
  | unreadableWhole
  | fractional
  | wholeTooLarge
  | notFinite
  | belowMinimum
  | aboveMaximum
  | notTruth
  | unreadableTruth
  | notDecimal
  | unreadableDecimal
  | unreadableFloat
  | notMoment
  | unlisted
  | notUuid
  | unreadableUuid
  | notObject
  | notRecord
  | notList
  | unreadableDocument
  deriving DecidableEq, Repr

def Problem.name : Problem → String
  | missing => "missing"
  | notText => "string_type"
  | brokenText => "string_unicode"
  | tooShort => "string_too_short"
  | tooLong => "string_too_long"
  | notWhole => "int_type"
  | unreadableWhole => "int_parsing"
  | fractional => "int_from_float"
  | wholeTooLarge => "int_parsing_size"
  | notFinite => "finite_number"
  | belowMinimum => "greater_than_equal"
  | aboveMaximum => "less_than_equal"
  | notTruth => "bool_type"
  | unreadableTruth => "bool_parsing"
  | notDecimal => "decimal_type"
  | unreadableDecimal => "decimal_parsing"
  | unreadableFloat => "float_parsing"
  | notMoment => "datetime_from_date_parsing"
  | unlisted => "enum"
  | notUuid => "uuid_type"
  | unreadableUuid => "uuid_parsing"
  | notObject => "dict_type"
  | notRecord => "model_attributes_type"
  | notList => "list_type"
  | unreadableDocument => "json_invalid"

end SubscriptionBilling
