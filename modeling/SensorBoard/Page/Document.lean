import SensorBoard.Page.Block

/-!
# The page

The whole page: a banner if there is one to show, the grid if there is a board, and the script that
reports clicks with the widths at that moment and draws the charts.
-/

namespace SensorBoard.Page

/-- The lines of the script. -/
def scriptLines : List String :=
  ["document.querySelectorAll('.i-card-wrapper').forEach(function (wrap) \x7b",
   "  wrap.addEventListener('click', function () \x7b",
   "    var panel = document.querySelector('.device-panel');",
   "    var url = 'api/devices/' + encodeURIComponent(wrap.dataset.device) +",
   "      '/sensors/' + encodeURIComponent(wrap.dataset.sensor) + '/toggle';",
   "    fetch(url, \x7b",
   "      method: 'POST',",
   "      headers: \x7b'Content-Type': 'application/json'\x7d,",
   "      body: JSON.stringify(" ++
     "\x7bcontainer_width: panel.clientWidth, card_width: wrap.offsetWidth\x7d)",
   "    \x7d).then(function () \x7b location.reload(); \x7d);",
   "  \x7d);",
   "\x7d);",
   "document.querySelectorAll('canvas.param-chart').forEach(function (canvas) \x7b",
   "  if (!canvas.dataset.chart) \x7b return; \x7d",
   "  var chart = JSON.parse(canvas.dataset.chart);",
   "  new Chart(canvas, \x7b",
   "    type: 'line',",
   "    data: \x7b",
   "      labels: chart.series.map(function (p) " ++
     "\x7b return new Date(p[0]).toLocaleString(); \x7d),",
   "      datasets: [\x7blabel: chart.label + ' (' + chart.units + ')', fill: true,",
   "        data: chart.series.map(function (p) \x7b return p[1]; \x7d)\x7d]",
   "    \x7d,",
   "    options: \x7bresponsive: true, maintainAspectRatio: false\x7d",
   "  \x7d);",
   "\x7d);"]

/-- The script, on lines of its own. -/
def script : String := "\n" ++ "\n".intercalate scriptLines ++ "\n"

/-- What stands before the banner. -/
def headLines : List String :=
  ["<!doctype html>", "<html>", "<head>", "<meta charset=\"utf-8\">",
   "<title>sensor dashboard</title>",
   "<link rel=\"stylesheet\" " ++
     "href=\"https://cdn.jsdelivr.net/npm/bootstrap@4.6.2/dist/css/bootstrap.min.css\">",
   "<link rel=\"stylesheet\" " ++
     "href=\"https://cdn.jsdelivr.net/npm/font-awesome@4.7.0/css/font-awesome.min.css\">",
   "<script src=\"https://cdn.jsdelivr.net/npm/chart.js@4\"></script>", "</head>", "<body>"]

def banner : Option String → Markup
  | some message =>
    [.markup "<div class=\"loading-error-msg\">", .text message, .markup "</div>"]
  | none => []

/-- The grid of a board, if there is a board. -/
def boardGrid : Option Board → Markup
  | some board => grid board
  | none => []

def document (board : Option Board) (message : Option String) : Markup :=
  [.markup ("\n".intercalate headLines ++ "\n")] ++ banner message ++
    [.markup "\n<div class=\"container device-panel\">\n<div class=\"row\">\n"] ++
    boardGrid board ++
    [.markup ("\n</div>\n</div>\n<script>" ++ script ++ "</script>\n</body>\n</html>")]

end SensorBoard.Page
