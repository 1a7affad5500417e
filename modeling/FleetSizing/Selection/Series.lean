import FleetSizing.Shape

/-! The series of a shape: shapes of one hardware generation and purpose. -/
namespace FleetSizing.Series

/-- Up to the first dot, as `m5` in `m5.large`. -/
def aws (name : List Char) : List Char := name.takeWhile (· != '.')

def dropLead? (lead name : List Char) : Option (List Char) :=
  if lead.isPrefixOf name then some (name.drop lead.length) else none

/-- The family without its digits and the version, as `Ds_v3` in `Standard_D2s_v3`. -/
def azure (name : List Char) : List Char :=
  let body := ((dropLead? "Standard_".toList name).orElse fun _ =>
    dropLead? "Basic_".toList name).getD name
  (body.takeWhile (· != '_')).filter (!·.isDigit) ++ body.dropWhile (· != '_')

/-- Up to the size in digits after the last hyphen, as `n1-standard` in `n1-standard-4`. -/
def google (name : List Char) : List Char :=
  if name.contains '-' then
    let size := (name.reverse.takeWhile (· != '-')).reverse
    if size.all Char.isDigit then name.take (name.length - size.length - 1) else name
  else name

/-- The series of a name under the conventions of a cloud. -/
def ofName (cloud : Cloud) (name : String) : String :=
  let cs := name.toList
  String.ofList <| match cloud with
    | .aws => aws cs
    | .azure => azure cs
    | .google => google cs

end FleetSizing.Series
