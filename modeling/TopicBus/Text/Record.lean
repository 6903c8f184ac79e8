namespace TopicBus.Text

def record (label : String) (fields : List (String × String)) : String :=
  label ++ " \x7b " ++ ", ".intercalate (fields.map fun field => field.1 ++ ": " ++ field.2)
    ++ " \x7d"

def wrapped (label value : String) : String :=
  label ++ "(" ++ value ++ ")"

end TopicBus.Text
