/-!
# Style: the matrix

Table, breadcrumbs, badges and the classes of rates and runtimes.
-/

namespace TestHistory.Page.Style.Matrix

def lines : List String := [
  ".table-wrapper \x7b overflow: auto; max-height: 75vh; border: 1px solid var(--border-color); border-radius: 8px; \x7d",
  "table \x7b border-collapse: collapse; width: 100%; font-size: 13px; \x7d",
  "th, td \x7b padding: 8px 10px; border-bottom: 1px solid var(--border-color); text-align: left; white-space: nowrap; \x7d",
  "thead th \x7b position: sticky; top: 0; background: var(--bg-secondary); z-index: 2; \x7d",
  ".run-header \x7b cursor: pointer; text-align: center; \x7d",
  ".run-header:hover \x7b color: var(--accent-color); \x7d",
  ".run-header .meta \x7b font-size: 10px; font-weight: 400; color: var(--text-secondary); \x7d",
  "tbody tr:hover \x7b background: var(--bg-hover); \x7d",
  ".test-name-cell \x7b white-space: normal; min-width: 320px; \x7d",
  ".test-name-wrapper \x7b display: flex; align-items: flex-start; gap: 8px; justify-content: space-between; \x7d",
  ".test-breadcrumb \x7b display: flex; flex-wrap: wrap; gap: 4px; align-items: center; \x7d",
  ".breadcrumb-container \x7b color: var(--text-secondary); font-size: 12px; \x7d",
  ".breadcrumb-container.level-0 \x7b font-weight: 600; \x7d",
  ".breadcrumb-separator \x7b color: var(--text-secondary); \x7d",
  ".breadcrumb-leaf \x7b font-weight: 500; \x7d",
  ".copy-test-name-btn \x7b",
  "    opacity: 0;",
  "    border: 1px solid var(--border-color);",
  "    background: var(--bg-primary);",
  "    color: var(--text-secondary);",
  "    border-radius: 4px;",
  "    font-size: 11px;",
  "    padding: 2px 6px;",
  "    cursor: pointer;",
  "\x7d",
  "tr:hover .copy-test-name-btn \x7b opacity: 1; \x7d",
  ".stats-cell \x7b text-align: center; \x7d",
  ".pass-rate \x7b font-weight: 600; \x7d",
  ".rate-high \x7b color: #10b981; \x7d",
  ".rate-medium \x7b color: #f59e0b; \x7d",
  ".rate-low \x7b color: #ef4444; \x7d",
  ".counts, .avg-time \x7b font-size: 11px; color: var(--text-secondary); \x7d",
  ".result-cell \x7b cursor: pointer; text-align: center; \x7d",
  ".result-cell:hover \x7b background: var(--bg-hover); \x7d",
  ".absent-cell \x7b text-align: center; color: var(--text-secondary); \x7d",
  ".badge \x7b",
  "    display: inline-block;",
  "    padding: 2px 8px;",
  "    border-radius: 10px;",
  "    font-size: 11px;",
  "    font-weight: 600;",
  "    background: var(--warning-bg);",
  "    color: var(--warning-text);",
  "\x7d",
  ".badge.passed \x7b background: var(--success-bg); color: var(--success-text); \x7d",
  ".badge.failed \x7b background: var(--error-bg); color: var(--error-text); \x7d",
  ".runtime \x7b display: block; font-size: 11px; margin-top: 2px; \x7d",
  ".runtime-fast \x7b color: #10b981; \x7d",
  ".runtime-medium \x7b color: #f59e0b; \x7d",
  ".runtime-slow \x7b color: #ef4444; \x7d"]

end TestHistory.Page.Style.Matrix
