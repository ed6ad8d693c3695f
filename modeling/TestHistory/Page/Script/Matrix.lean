/-!
# Script: filters of the matrix

Rows that match the search text and the chosen filters stay visible.
-/

namespace TestHistory.Page.Script.Matrix

def lines : List String := [
  "// Matrix filtering",
  "function filterTable() \x7b",
  "    const search = document.getElementById('searchInput').value.toLowerCase();",
  "    const status = document.getElementById('statusFilter').value;",
  "    const stability = document.getElementById('stabilityFilter').value;",
  "    const label = document.getElementById('labelFilter').value;",
  "",
  "    document.querySelectorAll('#resultsTable tbody tr').forEach(row => \x7b",
  "        const data = window.pivotData[Number(row.dataset.row)];",
  "        const cells = Object.values(data.runs).filter(r => r);",
  "",
  "        const matchesSearch = data.test_name.toLowerCase().includes(search);",
  "        const matchesStatus = status === 'all' || cells.some(r => r.state === status);",
  "        let matchesStability = true;",
  "        if (stability === 'flaky') matchesStability = data.is_flaky;",
  "        if (stability === 'stable') matchesStability = !data.is_flaky && data.fail_count === 0;",
  "        if (stability === 'always-failing') matchesStability = data.pass_count === 0;",
  "        const matchesLabel = label === 'all' || cells.some(r => r.labels && r.labels.includes(label));",
  "",
  "        row.style.display = matchesSearch && matchesStatus && matchesStability && matchesLabel ? '' : 'none';",
  "    \x7d);",
  "\x7d",
  ""]

end TestHistory.Page.Script.Matrix
