/-!
# Style: the frame of the page

Colors of both themes, header, tabs, cards and inputs.
-/

namespace TestHistory.Page.Style.Frame

def lines : List String := [
  ":root \x7b",
  "    --bg-primary: #ffffff;",
  "    --bg-secondary: #f8fafc;",
  "    --bg-hover: #e0e7ff;",
  "    --text-primary: #0f172a;",
  "    --text-secondary: #64748b;",
  "    --border-color: #e2e8f0;",
  "    --accent-color: #3b82f6;",
  "    --modal-backdrop: rgba(0, 0, 0, 0.4);",
  "    --success-bg: #d1fae5;",
  "    --success-text: #065f46;",
  "    --error-bg: #fee2e2;",
  "    --error-text: #991b1b;",
  "    --warning-bg: #fef3c7;",
  "    --warning-text: #92400e;",
  "    --log-bg: #1e293b;",
  "    --log-text: #e2e8f0;",
  "\x7d",
  "[data-theme=\"dark\"] \x7b",
  "    --bg-primary: #1e293b;",
  "    --bg-secondary: #0f172a;",
  "    --bg-hover: #334155;",
  "    --text-primary: #f1f5f9;",
  "    --text-secondary: #cbd5e1;",
  "    --border-color: #334155;",
  "    --accent-color: #60a5fa;",
  "    --modal-backdrop: rgba(0, 0, 0, 0.7);",
  "    --success-bg: #064e3b;",
  "    --success-text: #a7f3d0;",
  "    --error-bg: #7f1d1d;",
  "    --error-text: #fca5a5;",
  "    --warning-bg: #78350f;",
  "    --warning-text: #fcd34d;",
  "    --log-bg: #0f172a;",
  "\x7d",
  "* \x7b margin: 0; padding: 0; box-sizing: border-box; \x7d",
  "body \x7b",
  "    font-family: 'Inter', -apple-system, BlinkMacSystemFont, 'Segoe UI', Roboto, sans-serif;",
  "    background: var(--bg-secondary);",
  "    color: var(--text-primary);",
  "\x7d",
  "svg \x7b display: inline-block; vertical-align: middle; flex-shrink: 0; \x7d",
  ".container \x7b background: var(--bg-primary); min-height: 100vh; \x7d",
  ".header \x7b",
  "    padding: 20px 40px;",
  "    border-bottom: 1px solid var(--border-color);",
  "    display: flex;",
  "    justify-content: space-between;",
  "    align-items: center;",
  "\x7d",
  ".header h1 \x7b font-size: 22px; font-weight: 600; margin-bottom: 4px; \x7d",
  ".subtle \x7b color: var(--text-secondary); \x7d",
  ".tabs \x7b display: flex; gap: 24px; padding: 0 40px; border-bottom: 1px solid var(--border-color); \x7d",
  ".tab-btn \x7b",
  "    padding: 16px 4px;",
  "    background: none;",
  "    border: none;",
  "    border-bottom: 2px solid transparent;",
  "    color: var(--text-secondary);",
  "    font-weight: 500;",
  "    cursor: pointer;",
  "\x7d",
  ".tab-btn.active \x7b color: var(--accent-color); border-bottom-color: var(--accent-color); \x7d",
  ".tab-content \x7b display: none; padding: 24px 40px; \x7d",
  ".tab-content.active \x7b display: block; \x7d",
  ".summary-grid \x7b display: grid; grid-template-columns: repeat(auto-fit, minmax(180px, 1fr)); gap: 16px; \x7d",
  ".card \x7b",
  "    background: var(--bg-primary);",
  "    border: 1px solid var(--border-color);",
  "    border-radius: 8px;",
  "    padding: 16px;",
  "\x7d",
  ".card .label \x7b font-size: 12px; text-transform: uppercase; color: var(--text-secondary); \x7d",
  ".card .value \x7b font-size: 26px; font-weight: 600; margin-top: 6px; \x7d",
  ".latest-card \x7b grid-column: span 2; \x7d",
  ".latest-grid \x7b display: grid; grid-template-columns: repeat(3, 1fr); gap: 12px; margin-top: 12px; text-align: center; \x7d",
  ".latest-grid .figure \x7b font-size: 20px; font-weight: 600; \x7d",
  ".git-line \x7b",
  "    margin-top: 12px;",
  "    padding-top: 12px;",
  "    border-top: 1px solid var(--border-color);",
  "    display: flex;",
  "    justify-content: center;",
  "    gap: 8px;",
  "    font-size: 12px;",
  "\x7d",
  ".git-line code \x7b background: var(--bg-secondary); padding: 3px 8px; border-radius: 4px; \x7d",
  ".git-line .commit \x7b cursor: pointer; \x7d",
  ".dirty-dot \x7b color: #ef4444; font-size: 14px; \x7d",
  ".trend-up \x7b color: #10b981; \x7d",
  ".trend-down \x7b color: #ef4444; \x7d",
  ".trend-flat \x7b color: var(--text-secondary); \x7d",
  ".charts-container \x7b display: grid; grid-template-columns: 1fr 1fr; gap: 24px; margin: 24px 0; \x7d",
  ".chart-wrapper \x7b height: 280px; border: 1px solid var(--border-color); border-radius: 8px; padding: 12px; \x7d",
  ".flaky-section h3 \x7b margin-bottom: 12px; font-size: 16px; \x7d",
  ".flaky-grid \x7b display: grid; grid-template-columns: repeat(auto-fill, minmax(280px, 1fr)); gap: 12px; \x7d",
  ".flaky-card \x7b cursor: pointer; \x7d",
  ".flaky-card:hover \x7b border-color: var(--accent-color); \x7d",
  ".flaky-header \x7b display: flex; gap: 8px; margin-bottom: 8px; \x7d",
  ".flaky-name \x7b font-size: 13px; word-break: break-word; \x7d",
  ".flaky-stats \x7b font-size: 12px; color: var(--text-secondary); margin-top: 6px; \x7d",
  ".filters \x7b display: flex; gap: 12px; flex-wrap: wrap; margin-bottom: 16px; \x7d",
  ".filter-input, .btn \x7b",
  "    padding: 8px 12px;",
  "    border: 1px solid var(--border-color);",
  "    border-radius: 6px;",
  "    background: var(--bg-primary);",
  "    color: var(--text-primary);",
  "    font-size: 13px;",
  "\x7d",
  ".btn \x7b cursor: pointer; \x7d",
  ".btn:hover \x7b background: var(--bg-hover); \x7d"]

end TestHistory.Page.Style.Frame
