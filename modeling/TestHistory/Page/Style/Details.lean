/-!
# Style: comparison and dialogs

Lists of the comparison and the dialogs with their tabs.
-/

namespace TestHistory.Page.Style.Details

def lines : List String := [
  ".comparison-run-info \x7b display: grid; grid-template-columns: 1fr 1fr; gap: 16px; margin-top: 16px; \x7d",
  ".run-info-card \x7b border: 1px solid var(--border-color); border-radius: 8px; padding: 12px; font-size: 13px; \x7d",
  ".run-info-card h4 \x7b margin-bottom: 8px; \x7d",
  ".comparison-grid \x7b display: grid; grid-template-columns: repeat(3, 1fr); gap: 16px; margin-top: 20px; \x7d",
  ".comparison-col \x7b border: 1px solid var(--border-color); border-radius: 8px; padding: 12px; min-height: 120px; \x7d",
  ".comparison-col h4 \x7b margin-bottom: 8px; \x7d",
  ".comparison-item \x7b padding: 8px; border-bottom: 1px solid var(--border-color); cursor: pointer; font-size: 13px; \x7d",
  ".comparison-item .meta \x7b font-size: 11px; color: var(--text-secondary); margin-top: 4px; \x7d",
  ".empty-list \x7b color: var(--text-secondary); padding: 20px; text-align: center; \x7d",
  ".modal \x7b",
  "    display: none;",
  "    position: fixed;",
  "    inset: 0;",
  "    background: var(--modal-backdrop);",
  "    z-index: 100;",
  "    align-items: center;",
  "    justify-content: center;",
  "\x7d",
  ".modal.open \x7b display: flex; \x7d",
  ".modal-content \x7b",
  "    background: var(--bg-primary);",
  "    width: min(1100px, 94vw);",
  "    max-height: 90vh;",
  "    border-radius: 10px;",
  "    display: flex;",
  "    flex-direction: column;",
  "\x7d",
  ".modal-header \x7b display: flex; justify-content: space-between; align-items: center; padding: 16px 20px; border-bottom: 1px solid var(--border-color); \x7d",
  ".modal-header h2 \x7b font-size: 16px; word-break: break-word; \x7d",
  ".close-btn \x7b font-size: 24px; cursor: pointer; color: var(--text-secondary); \x7d",
  ".modal-body \x7b padding: 16px 20px; overflow: auto; \x7d",
  ".modal-tabs \x7b display: flex; gap: 16px; border-bottom: 1px solid var(--border-color); margin-bottom: 12px; \x7d",
  ".modal-tab \x7b background: none; border: none; padding: 8px 2px; cursor: pointer; color: var(--text-secondary); border-bottom: 2px solid transparent; \x7d",
  ".modal-tab.active \x7b color: var(--accent-color); border-bottom-color: var(--accent-color); \x7d",
  ".modal-tab-content \x7b display: none; \x7d",
  ".modal-tab-content.active \x7b display: block; \x7d",
  ".kv \x7b display: grid; grid-template-columns: max-content 1fr; gap: 6px 16px; font-size: 13px; margin-bottom: 12px; \x7d",
  ".kv dt \x7b color: var(--text-secondary); \x7d",
  ".failure-box \x7b",
  "    background: var(--error-bg);",
  "    color: var(--error-text);",
  "    padding: 12px;",
  "    border-radius: 6px;",
  "    white-space: pre-wrap;",
  "    font-family: ui-monospace, SFMono-Regular, Menlo, monospace;",
  "    font-size: 12px;",
  "\x7d",
  ".file-block \x7b margin-top: 12px; border: 1px solid var(--border-color); border-radius: 6px; \x7d",
  ".file-block summary \x7b padding: 8px 12px; cursor: pointer; font-size: 13px; \x7d"]

end TestHistory.Page.Style.Details
