/-!
# The bundled light theme

The tokens of the light theme with their values, in the order in which they are listed.
-/

namespace DesignTokens

namespace Bundled

/-- The tokens of the light theme. -/
def light : List (String × String) :=
  [ ("--ant-blue", "#1677ff"), ("--ant-blue-1", "#e6f4ff"), ("--ant-blue-2", "#bae0ff"),
    ("--ant-blue-3", "#91caff"), ("--ant-blue-4", "#69b1ff"), ("--ant-blue-5", "#4096ff"),
    ("--ant-blue-6", "#1677ff"), ("--ant-blue-7", "#0958d9"), ("--ant-blue-8", "#003eb3"),
    ("--ant-blue-9", "#002c8c"), ("--ant-blue-10", "#001d66"), ("--ant-purple", "#722ed1"),
    ("--ant-cyan", "#13c2c2"), ("--ant-green", "#52c41a"), ("--ant-magenta", "#eb2f96"),
    ("--ant-pink", "#eb2f96"), ("--ant-red", "#f5222d"), ("--ant-orange", "#fa8c16"),
    ("--ant-yellow", "#fadb14"), ("--ant-volcano", "#fa541c"), ("--ant-geekblue", "#2f54eb"),
    ("--ant-gold", "#faad14"), ("--ant-lime", "#a0d911"), ("--ant-color-primary", "#1677ff"),
    ("--ant-color-primary-bg", "#e6f4ff"), ("--ant-color-primary-bg-hover", "#bae0ff"),
    ("--ant-color-primary-border", "#91caff"), ("--ant-color-primary-border-hover", "#69b1ff"),
    ("--ant-color-primary-hover", "#4096ff"), ("--ant-color-primary-active", "#0958d9"),
    ("--ant-color-primary-text-hover", "#4096ff"), ("--ant-color-primary-text", "#1677ff"),
    ("--ant-color-primary-text-active", "#0958d9"), ("--ant-color-success", "#52c41a"),
    ("--ant-color-success-bg", "#f6ffed"), ("--ant-color-success-border", "#b7eb8f"),
    ("--ant-color-success-hover", "#95de64"), ("--ant-color-success-active", "#389e0d"),
    ("--ant-color-warning", "#faad14"), ("--ant-color-warning-bg", "#fffbe6"),
    ("--ant-color-warning-border", "#ffe58f"), ("--ant-color-warning-hover", "#ffd666"),
    ("--ant-color-warning-active", "#d48806"), ("--ant-color-error", "#ff4d4f"),
    ("--ant-color-error-bg", "#fff2f0"), ("--ant-color-error-border", "#ffccc7"),
    ("--ant-color-error-hover", "#ff7875"), ("--ant-color-error-active", "#d9363e"),
    ("--ant-color-info", "#1677ff"), ("--ant-color-info-bg", "#e6f4ff"),
    ("--ant-color-info-border", "#91caff"), ("--ant-color-link", "#1677ff"),
    ("--ant-color-link-hover", "#69b1ff"), ("--ant-color-link-active", "#0958d9"),
    ("--ant-color-text", "rgba(0, 0, 0, 0.88)"),
    ("--ant-color-text-secondary", "rgba(0, 0, 0, 0.65)"),
    ("--ant-color-text-tertiary", "rgba(0, 0, 0, 0.45)"),
    ("--ant-color-text-quaternary", "rgba(0, 0, 0, 0.25)"),
    ("--ant-color-text-disabled", "rgba(0, 0, 0, 0.25)"),
    ("--ant-color-text-heading", "rgba(0, 0, 0, 0.88)"),
    ("--ant-color-text-description", "rgba(0, 0, 0, 0.45)"),
    ("--ant-color-text-light-solid", "#fff"),
    ("--ant-color-text-placeholder", "rgba(0, 0, 0, 0.25)"),
    ("--ant-color-icon", "rgba(0, 0, 0, 0.45)"), ("--ant-color-icon-hover", "rgba(0, 0, 0, 0.88)"),
    ("--ant-color-bg-base", "#fff"), ("--ant-color-bg-container", "#ffffff"),
    ("--ant-color-bg-elevated", "#ffffff"), ("--ant-color-bg-layout", "#f5f5f5"),
    ("--ant-color-bg-spotlight", "rgba(0, 0, 0, 0.85)"),
    ("--ant-color-bg-mask", "rgba(0, 0, 0, 0.45)"),
    ("--ant-color-bg-container-disabled", "rgba(0, 0, 0, 0.04)"),
    ("--ant-color-bg-text-hover", "rgba(0, 0, 0, 0.06)"),
    ("--ant-color-bg-text-active", "rgba(0, 0, 0, 0.15)"), ("--ant-color-border", "#d9d9d9"),
    ("--ant-color-border-secondary", "#f0f0f0"), ("--ant-color-fill", "rgba(0, 0, 0, 0.15)"),
    ("--ant-color-fill-secondary", "rgba(0, 0, 0, 0.06)"),
    ("--ant-color-fill-tertiary", "rgba(0, 0, 0, 0.04)"),
    ("--ant-color-fill-quaternary", "rgba(0, 0, 0, 0.02)"),
    ("--ant-color-split", "rgba(5, 5, 5, 0.06)"), ("--ant-color-white", "#fff"),
    ("--ant-font-family",
      "-apple-system, BlinkMacSystemFont, 'Segoe UI', Roboto, 'Helvetica Neue', Arial, "
        ++ "'Noto Sans', sans-serif"),
    ("--ant-font-family-code",
      "'SFMono-Regular', Consolas, 'Liberation Mono', Menlo, Courier, monospace"),
    ("--ant-font-size", "14px"), ("--ant-font-size-sm", "12px"), ("--ant-font-size-lg", "16px"),
    ("--ant-font-size-xl", "20px"), ("--ant-font-size-heading-1", "38px"),
    ("--ant-font-size-heading-2", "30px"), ("--ant-font-size-heading-3", "24px"),
    ("--ant-font-size-heading-4", "20px"), ("--ant-font-size-heading-5", "16px"),
    ("--ant-font-weight-strong", "600"), ("--ant-line-height", "1.5714285714285714"),
    ("--ant-line-height-sm", "1.6666666666666667"), ("--ant-line-height-lg", "1.5"),
    ("--ant-size-unit", "4px"), ("--ant-size-step", "4px"), ("--ant-size-xxs", "4px"),
    ("--ant-size-xs", "8px"), ("--ant-size-sm", "12px"), ("--ant-size", "16px"),
    ("--ant-size-md", "20px"), ("--ant-size-lg", "24px"), ("--ant-size-xl", "32px"),
    ("--ant-size-xxl", "48px"), ("--ant-control-height", "32px"),
    ("--ant-control-height-sm", "24px"), ("--ant-control-height-lg", "40px"),
    ("--ant-control-height-xs", "16px"), ("--ant-control-outline-width", "2px"),
    ("--ant-padding", "16px"), ("--ant-padding-xxs", "4px"), ("--ant-padding-xs", "8px"),
    ("--ant-padding-sm", "12px"), ("--ant-padding-md", "20px"), ("--ant-padding-lg", "24px"),
    ("--ant-padding-xl", "32px"), ("--ant-margin", "16px"), ("--ant-margin-xxs", "4px"),
    ("--ant-margin-xs", "8px"), ("--ant-margin-sm", "12px"), ("--ant-margin-md", "20px"),
    ("--ant-margin-lg", "24px"), ("--ant-margin-xl", "32px"), ("--ant-border-radius", "6px"),
    ("--ant-border-radius-xs", "2px"), ("--ant-border-radius-sm", "4px"),
    ("--ant-border-radius-lg", "8px"), ("--ant-border-radius-outer", "4px"),
    ("--ant-line-width", "1px"), ("--ant-line-width-bold", "2px"),
    ("--ant-line-width-focus", "4px"), ("--ant-line-type", "solid"), ("--ant-motion-unit", "0.1s"),
    ("--ant-motion-base", "0s"), ("--ant-motion-duration-fast", "0.1s"),
    ("--ant-motion-duration-mid", "0.2s"), ("--ant-motion-duration-slow", "0.3s"),
    ("--ant-motion-ease-in-out", "cubic-bezier(0.645, 0.045, 0.355, 1)"),
    ("--ant-motion-ease-out", "cubic-bezier(0.215, 0.61, 0.355, 1)"),
    ("--ant-motion-ease-in", "cubic-bezier(0.55, 0.055, 0.675, 0.19)"),
    ("--ant-motion-ease-out-back", "cubic-bezier(0.12, 0.4, 0.29, 1.46)"),
    ("--ant-box-shadow",
      "0 6px 16px 0 rgba(0, 0, 0, 0.08), 0 3px 6px -4px rgba(0, 0, 0, 0.12), "
        ++ "0 9px 28px 8px rgba(0, 0, 0, 0.05)"),
    ("--ant-box-shadow-secondary",
      "0 6px 16px 0 rgba(0, 0, 0, 0.08), 0 3px 6px -4px rgba(0, 0, 0, 0.12), "
        ++ "0 9px 28px 8px rgba(0, 0, 0, 0.05)"),
    ("--ant-box-shadow-tertiary",
      "0 1px 2px 0 rgba(0, 0, 0, 0.03), 0 1px 6px -1px rgba(0, 0, 0, 0.02), "
        ++ "0 2px 4px 0 rgba(0, 0, 0, 0.02)"),
    ("--ant-z-index-base", "0"), ("--ant-z-index-popup-base", "1000"),
    ("--ant-opacity-image", "1"), ("--ant-opacity-loading", "0.65"), ("--ant-screen-xs", "480px"),
    ("--ant-screen-sm", "576px"), ("--ant-screen-md", "768px"), ("--ant-screen-lg", "992px"),
    ("--ant-screen-xl", "1200px"), ("--ant-screen-xxl", "1600px"), ("--ant-wireframe", "false") ]

end Bundled

end DesignTokens
