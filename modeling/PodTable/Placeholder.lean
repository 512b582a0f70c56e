/-!
# Placeholders

What a cell shows when there is nothing to show.
-/

namespace PodTable

/-- What is shown for a value that is not available. -/
def notAvailable : String := "n/a"

/-- What is shown for labels when there are none. -/
def noLabels : String := "<none>"

end PodTable
