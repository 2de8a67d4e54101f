import Forecast.Collection.SortedMap
import Forecast.Settings.LogDirective

/-!
# Log filters

A filter is a list of directives between commas.  The general ones come first and those that depend
on spans behind them, in each group the most specific first; a directive on fields without values is
in both.  A later directive for the same target, span and fields replaces an earlier one.
-/

namespace Forecast

/-- Directives in two groups, in each the most specific first. -/
structure LogFilter where
  /-- Directives that do not depend on spans. -/
  general : List LogDirective
  /-- Directives that depend on spans or their fields. -/
  specific : List LogDirective

namespace LogFilter

/-- Directives in order, of which a later one replaces an earlier one. -/
def filed (directives : List LogDirective) : List LogDirective :=
  (SortedMap.ofList (directives.map fun directive => (directive, directive))).values

/-- The filter of a list of directives. -/
def ofDirectives (directives : List LogDirective) : LogFilter where
  general := filed (directives.filter LogDirective.isGeneral)
  specific := filed (directives.filter LogDirective.isSpecific)

/-- Read a filter.  Empty parts are skipped. -/
def ofText? (text : String) : Option LogFilter := do
  let parts := (text.toList.splitBy fun left right => left != ',' && right != ',').filter
    fun part => part != [',']
  let directives ← parts.mapM fun part => LogDirective.ofText? (String.ofList part)
  pure (ofDirectives directives)

/-- The directives between commas. -/
def text (filter : LogFilter) : String :=
  ",".intercalate ((filter.general ++ filter.specific).map LogDirective.text)

/-- The filter of the environment if it is set and can be read, else that of the settings. -/
def choose (environment : Environment) (settings : Settings) : Except Error LogFilter :=
  match environment.logLevel.bind ofText? with
  | some filter => pure filter
  | none =>
      match ofText? settings.logLevel with
      | some filter => pure filter
      | none => throw (.configuration (.invalidFilter settings.logLevel))

end LogFilter

end Forecast
